import SqlScribe.Sql.Syntax

/-!
# Evaluation of rendered queries

A server holds the rows of tables and knows what expressions mean.  It evaluates a
SELECT from the inside out, and a chain of SELECTs by the precedence of the operators
between them: INTERSECT binds tighter than the others, which associate to the left.

Main definitions:

- `Server` is what evaluation depends on.
- `Server.select` evaluates a SELECT to its rows, with repetitions.
- `Sql.readChain` reads a chain by precedence, `Sql.inOrder` from left to right.

Main results:

- `Sql.readChain_eq_inOrder`: both readings agree where no INTERSECT follows another
  operator.
-/

namespace SqlScribe

namespace Sql

variable {Row : Type} [DecidableEq Row]

/-! ## Chains of rows -/

/-- The rows of two SELECTs with an operator between them. -/
def ChainOperator.apply : ChainOperator → List Row → List Row → List Row
  | .unionAll, left, right => left ++ right
  | .intersect, left, right => (left.filter (· ∈ right)).eraseDups
  | .except, left, right => (left.filter (· ∉ right)).eraseDups

/-- Reads a chain by precedence.  The rows are those of the part that INTERSECT binds
together; the function combines them with everything in front of that part. -/
def readChain (finish : List Row → List Row) (rows : List Row) :
    List (ChainOperator × List Row) → List Row
  | [] => finish rows
  | (.intersect, next) :: rest => readChain finish (ChainOperator.intersect.apply rows next) rest
  | (operator, next) :: rest => readChain (operator.apply (finish rows)) next rest

/-- Reads a chain from left to right. -/
def inOrder (rows : List Row) (links : List (ChainOperator × List Row)) : List Row :=
  links.foldl (fun left link => link.1.apply left link.2) rows

/-- Rows are in an intersection if they are on both sides. -/
theorem mem_apply_intersect {row : Row} {left right : List Row} :
    row ∈ ChainOperator.intersect.apply left right ↔ row ∈ left ∧ row ∈ right := by
  simp [ChainOperator.apply, List.mem_eraseDups]

/-- Rows are in a difference if they are on the left side only. -/
theorem mem_apply_except {row : Row} {left right : List Row} :
    row ∈ ChainOperator.except.apply left right ↔ row ∈ left ∧ row ∉ right := by
  simp [ChainOperator.apply, List.mem_eraseDups]

/-- No row is left twice. -/
theorem nodup_eraseDups : ∀ rows : List Row, rows.eraseDups.Nodup
  | [] => List.nodup_nil
  | row :: rest => by
    rw [List.eraseDups_cons, List.nodup_cons]
    exact ⟨by simp [List.mem_eraseDups], nodup_eraseDups _⟩
termination_by rows => rows.length
decreasing_by exact Nat.lt_succ_of_le (List.length_filter_le _ _)

/-- Without INTERSECT the operators apply one after the other. -/
theorem readChain_eq_inOrder_of_ne_intersect {links : List (ChainOperator × List Row)}
    (hlinks : ∀ link ∈ links, link.1 ≠ .intersect) (finish : List Row → List Row)
    (rows : List Row) : readChain finish rows links = inOrder (finish rows) links := by
  induction links generalizing finish rows with
  | nil => rfl
  | cons link rest ih =>
    obtain ⟨operator, next⟩ := link
    have hrest := ih fun other hother => hlinks other (List.mem_cons_of_mem _ hother)
    cases operator with
    | intersect => exact absurd rfl (hlinks _ List.mem_cons_self)
    | unionAll => exact hrest _ next
    | except => exact hrest _ next

/-- So do they where no INTERSECT follows another operator. -/
theorem readChain_eq_inOrder {links : List (ChainOperator × List Row)}
    (hlinks : links.Pairwise fun a b => ¬ (a.1 ≠ .intersect ∧ b.1 = .intersect))
    (rows : List Row) : readChain id rows links = inOrder rows links := by
  induction links generalizing rows with
  | nil => rfl
  | cons link rest ih =>
    obtain ⟨operator, next⟩ := link
    obtain ⟨hfirst, hrest⟩ := List.pairwise_cons.mp hlinks
    cases operator with
    | intersect => exact ih hrest _
    | unionAll | except =>
      have hnone : ∀ other ∈ rest, other.1 ≠ .intersect :=
        fun other hother hintersect => hfirst other hother ⟨nofun, hintersect⟩
      exact readChain_eq_inOrder_of_ne_intersect hnone _ next

/-! ## Limits -/

/-- The rows within a limit; a fraction of a row is a whole one. -/
def takeTop : Option RowLimit → List Row → List Row
  | none, rows => rows
  | some ⟨amount, .rows⟩, rows => rows.take amount.toNat
  | some ⟨amount, .percent⟩, rows => rows.take ((rows.length * amount.toNat + 99) / 100)

/-- The rows of a page. -/
def takePage : Option Paging → List Row → List Row
  | none, rows => rows
  | some ⟨skip, none⟩, rows => rows.drop skip
  | some ⟨skip, some count⟩, rows => (rows.drop skip).take count

end Sql

open Sql

/-! ## Servers -/

/-- The rows of a server and the meaning of expressions, bound values included. -/
structure Server (Row : Type) where
  table : Table → List Row
  holds : Predicate → Row → Bool
  item : List (Scalar × Option String) → Row → Row
  number : Nat → Row
  /-- The rows in an ordering, which may leave open how some of them are ordered. -/
  sort : Sql.Ordering → List Row → List Row
  sort_perm : ∀ ordering rows, (sort ordering rows).Perm rows

namespace Server

variable {Row : Type} [DecidableEq Row]

/-- The rows that meet a condition. -/
def filter (server : Server Row) (condition : Option Predicate) (rows : List Row) : List Row :=
  match condition with
  | some predicate => rows.filter (server.holds predicate)
  | none => rows

/-- What is returned of rows. -/
def returned (server : Server Row) (columns : SelectList) (rows : List Row) : List Row :=
  match columns with
  | .all => rows
  | .count => [server.number rows.length]
  | .items list => rows.map (server.item list)

mutual

/-- The rows of a SELECT. -/
def select (server : Server Row) : Select → List Row
  | ⟨distinct, top, columns, relation, condition, ordering, paging⟩ =>
    let read := server.filter condition (server.relation relation)
    let rows := server.returned columns (server.sort ordering read)
    takePage paging (takeTop top (if distinct then rows.eraseDups else rows))

/-- The rows of what a SELECT reads. -/
def relation (server : Server Row) : Relation Select → List Row
  | .table table => server.table table
  | .derived ⟨first, rest⟩ => readChain id (server.select first) (server.links rest)

/-- The rows of further SELECTs with their operators. -/
def links (server : Server Row) : List (Link Select) → List (ChainOperator × List Row)
  | [] => []
  | ⟨operator, next⟩ :: rest => (operator, server.select next) :: server.links rest

end

/-- Every further SELECT keeps its operator. -/
theorem map_fst_links (server : Server Row) (further : List (Link Select)) :
    (server.links further).map (·.1) = further.map (·.operator) := by
  induction further with
  | nil => rfl
  | cons link rest ih =>
    obtain ⟨operator, next⟩ := link
    simp [links, ih]

end Server

end SqlScribe
