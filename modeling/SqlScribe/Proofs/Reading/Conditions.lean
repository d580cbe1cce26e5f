import SqlScribe.Condition.Predicate
import SqlScribe.Proofs.Reading.ExprTrees

/-!
# Reading conditions

The text of a condition is read with the precedence of the server: NOT binds tighter than
AND, and AND tighter than OR.  Rendering puts every operand into parentheses, so that a
condition is read back as the tree that was rendered.

Main definitions:

- `Connected` is a tree of conditions joined by AND, OR and NOT.
- `Condition.connected` takes a condition apart into such a tree.
- `Sql.readCondition?` reads a text; comparisons, LIKE, IN and IS are its leaves.

Main results:

- `Sql.Predicate.readParts_trees`: the trees of a condition are read as the tree of its
  connectives.
- `Condition.readCondition?_predicate`: the text of a rendered condition is read as a tree of
  the same shape, whose leaves are those of the condition, rendered from left to right.
-/

namespace SqlScribe

/-! ## Trees of connectives -/

/-- Leaves joined by AND, OR and NOT. -/
inductive Connected (α : Type) where
  | leaf (content : α)
  | and (left right : Connected α)
  | or (left right : Connected α)
  | not (operand : Connected α)
deriving DecidableEq

namespace Connected

variable {α β : Type}

/-- The same tree with other leaves. -/
def map (f : α → β) : Connected α → Connected β
  | .leaf content => .leaf (f content)
  | .and left right => .and (left.map f) (right.map f)
  | .or left right => .or (left.map f) (right.map f)
  | .not operand => .not (operand.map f)

/-- The tree without what stands at its leaves. -/
def shape (tree : Connected α) : Connected Unit := tree.map fun _ => ()

/-- The leaves from left to right. -/
def leaves : Connected α → List α
  | .leaf content => [content]
  | .and left right => left.leaves ++ right.leaves
  | .or left right => left.leaves ++ right.leaves
  | .not operand => operand.leaves

/-- The leaves of a tree change one by one. -/
theorem leaves_map (f : α → β) (tree : Connected α) : (tree.map f).leaves = tree.leaves.map f := by
  induction tree with
  | leaf content => rfl
  | and left right ihleft ihright | or left right ihleft ihright =>
    simp [map, leaves, ihleft, ihright]
  | not operand ih => exact ih

/-- A tree keeps its shape with other leaves. -/
theorem shape_map (f : α → β) (tree : Connected α) : (tree.map f).shape = tree.shape := by
  induction tree with
  | leaf content => rfl
  | and left right ihleft ihright | or left right ihleft ihright =>
    simp only [shape, map] at ihleft ihright ⊢
    rw [ihleft, ihright]
  | not operand ih => exact congrArg Connected.not ih

end Connected

/-- The connectives of a condition; every other condition is a leaf. -/
def Condition.connected : Condition → Connected Condition
  | .and left right => .and left.connected right.connected
  | .or left right => .or left.connected right.connected
  | .not operand => .not operand.connected
  | .compare comparison left right => .leaf (.compare comparison left right)
  | .holds expr => .leaf (.holds expr)

namespace Sql

/-- The connectives of a rendered condition. -/
def Predicate.connected : Predicate → Connected Predicate
  | .and left right => .and left.connected right.connected
  | .or left right => .or left.connected right.connected
  | .not operand => .not operand.connected
  | leaf => .leaf leaf

/-! ## Reading -/

/-- What is read from a text: at each leaf stand its tokens. -/
abbrev Reading := Connected (List Token)

/-- A tree with what it says if it is a condition in parentheses. -/
structure Part where
  tree : Tree
  /-- The condition in parentheses. -/
  reading : Option Reading

/-- Whether a tree stands between the two sides of a comparison or of a test. -/
def Tree.joinsSides : Tree → Bool
  | .token (.sign text) => text ∈ ["=", "<", ">"]
  | .token (.word text) => text ∈ ["LIKE", "IN", "IS"]
  | _ => false

/-- Reads what stands between connectives: NOT in front of a condition, a comparison or a
test, or a condition in parentheses. -/
def readOperand : List Part → Option Reading
  | [] => none
  | part :: rest =>
    if part.tree.isWord "NOT" then (readOperand rest).map .not
    else if (part :: rest).any (·.tree.joinsSides) then
      some (.leaf (treeTokens ((part :: rest).map (·.tree))))
    else if rest.isEmpty then part.reading
    else none

/-- Reads conditions that are joined by a word, from left to right. -/
def readJoined (word : String) (connect : Reading → Reading → Reading)
    (read : List Part → Option Reading) (parts : List Part) : Option Reading := do
  let operands ← (parts.splitOnP (·.tree.isWord word)).mapM read
  match operands with
  | [] => none
  | first :: rest => some (rest.foldl connect first)

/-- Reads conditions with AND between them. -/
def readConjunction : List Part → Option Reading := readJoined "AND" .and readOperand

/-- Reads conditions with OR between them. -/
def readParts : List Part → Option Reading := readJoined "OR" .or readConjunction

mutual

/-- The condition that a tree is if it stands in parentheses. -/
def Tree.reading? : Tree → Option Reading
  | .token _ => none
  | .group inside => readParts (parts inside)

/-- Trees with the conditions in their parentheses. -/
def parts : List Tree → List Part
  | [] => []
  | tree :: rest => ⟨tree, tree.reading?⟩ :: parts rest

end

/-- Reads the text of a condition. -/
def readCondition? (text : String) : Option Reading :=
  (readGroups (tokens text)).bind fun trees => readParts (parts trees)

/-! ## Reading what is joined -/

/-- Trees are looked at one by one. -/
theorem parts_eq_map (trees : List Tree) :
    parts trees = trees.map fun tree => ⟨tree, tree.reading?⟩ := by
  induction trees with
  | nil => rfl
  | cons tree rest ih => rw [parts, ih, List.map_cons]

theorem parts_append (a b : List Tree) : parts (a ++ b) = parts a ++ parts b := by
  simp only [parts_eq_map, List.map_append]

section Joined

variable {word : String} (connect : Reading → Reading → Reading)
  (read : List Part → Option Reading) {a b : List Tree}

/-- Where the word does not stand outside of parentheses nothing is split. -/
theorem splitOnP_parts (ha : ∀ tree ∈ a, tree.isWord word = false) :
    (parts a).splitOnP (·.tree.isWord word) = [parts a] := by
  rw [List.splitOnP_eq_singleton]
  simpa [parts_eq_map] using ha

/-- Where the word does not stand outside of parentheses there is a single condition. -/
theorem readJoined_single (ha : ∀ tree ∈ a, tree.isWord word = false) :
    readJoined word connect read (parts a) = read (parts a) := by
  rw [readJoined, splitOnP_parts ha]
  cases hread : read (parts a) <;> simp [hread]

/-- Where the word stands once outside of parentheses it joins two conditions. -/
theorem readJoined_pair (ha : ∀ tree ∈ a, tree.isWord word = false)
    (hb : ∀ tree ∈ b, tree.isWord word = false) :
    readJoined word connect read (parts (a ++ .word word :: b)) =
      (read (parts a)).bind fun left => (read (parts b)).map (connect left) := by
  have hsplit : (parts (a ++ .word word :: b)).splitOnP (·.tree.isWord word) =
      [parts a, parts b] := by
    rw [parts_append, parts, List.splitOnP_append_cons_of_forall_mem, splitOnP_parts hb]
    · simpa [parts_eq_map] using ha
    · simp
  rw [readJoined, hsplit]
  cases hleft : read (parts a) <;> cases hright : read (parts b) <;> simp [hleft, hright]

end Joined

/-- NOT binds tighter than AND, and AND tighter than OR. -/
example : (readCondition? "a = 1 OR NOT b IS NOT NULL AND (c < 2 OR d LIKE e)").map (·.shape) =
    some (.or (.leaf ()) (.and (.not (.leaf ())) (.or (.leaf ()) (.leaf ())))) := by
  decide +kernel

/-! ## Reading operands -/

/-- The parts of trees are the trees. -/
theorem map_tree_parts (trees : List Tree) : (parts trees).map (·.tree) = trees := by
  rw [parts_eq_map, List.map_map]
  exact List.map_id trees

/-- A condition in parentheses is read inside of them. -/
theorem readOperand_group (inside : List Tree) :
    readOperand (parts [.group inside]) = readParts (parts inside) := by
  simp [parts, readOperand, Tree.joinsSides, Tree.reading?]

/-- NOT in front of a condition negates it. -/
theorem readOperand_not (trees : List Tree) :
    readOperand (parts (.word "NOT" :: trees)) = (readOperand (parts trees)).map .not := by
  simp [parts, readOperand]

/-- Two sides are a leaf. -/
theorem readOperand_sides {first : Tree} {rest : List Tree}
    (hfirst : first.isWord "NOT" = false) (hjoins : (first :: rest).any (·.joinsSides) = true) :
    readOperand (parts (first :: rest)) = some (.leaf (treeTokens (first :: rest))) := by
  have hany : (parts (first :: rest)).any (·.tree.joinsSides) = true := by
    simpa [parts_eq_map] using hjoins
  rw [parts, readOperand, hfirst, ← parts, hany, map_tree_parts]
  rfl

/-! ## Conditions are read back -/

/-- An expression with something behind that compares or tests it is read as a leaf. -/
theorem readParts_sides (operand : Scalar) {joining : Tree} {rest : List Tree}
    (hjoins : joining.joinsSides = true)
    (hrest : ∀ tree ∈ joining :: rest, tree.within sideWords sideSigns = true) :
    readParts (parts (operand.trees ++ joining :: rest)) =
      some (.leaf (treeTokens (operand.trees ++ joining :: rest))) := by
  have hwithin : ∀ tree ∈ operand.trees ++ joining :: rest,
      tree.within sideWords sideSigns = true := by
    rw [List.forall_mem_append]
    exact ⟨fun tree htree => Tree.within_mono (by decide) (by decide)
      (operand.within_trees tree htree), hrest⟩
  have hor : ∀ tree ∈ operand.trees ++ joining :: rest, tree.isWord "OR" = false :=
    fun tree htree => Tree.isToken_of_within (hwithin tree htree) (by decide)
  have hand : ∀ tree ∈ operand.trees ++ joining :: rest, tree.isWord "AND" = false :=
    fun tree htree => Tree.isToken_of_within (hwithin tree htree) (by decide)
  rw [readParts, readJoined_single _ _ hor, readConjunction, readJoined_single _ _ hand]
  obtain ⟨first, more, htrees⟩ := List.exists_cons_of_ne_nil operand.trees_ne_nil
  rw [htrees, List.cons_append]
  apply readOperand_sides
  · have hfirst := operand.within_trees first (by rw [htrees]; exact List.mem_cons_self)
    exact Tree.isToken_of_within hfirst (by decide)
  · simp [hjoins]

/-- No group is a word. -/
theorem isWord_group (word : String) (inside : List Tree) :
    ∀ tree ∈ [Tree.group inside], tree.isWord word = false := by
  simp

/-- The trees of a condition are read as the tree of its connectives. -/
theorem Predicate.readParts_trees : ∀ predicate : Predicate,
    readParts (parts predicate.trees) =
      some (predicate.connected.map fun leaf => treeTokens leaf.trees)
  | .and left right => by
    have hor : ∀ tree ∈ [Tree.group left.trees, .word "AND", .group right.trees],
        tree.isWord "OR" = false := by
      simp
    have hpair := readJoined_pair Connected.and readOperand
      (isWord_group "AND" left.trees) (isWord_group "AND" right.trees)
    rw [Predicate.trees, readParts, readJoined_single _ _ hor, readConjunction]
    rw [List.singleton_append] at hpair
    rw [hpair, readOperand_group, readOperand_group, left.readParts_trees, right.readParts_trees]
    rfl
  | .or left right => by
    have hpair := readJoined_pair Connected.or readConjunction
      (isWord_group "OR" left.trees) (isWord_group "OR" right.trees)
    have hsingle : ∀ inside : List Tree, readConjunction (parts [.group inside]) =
        readParts (parts inside) := fun inside => by
      rw [readConjunction, readJoined_single _ _ (isWord_group "AND" inside), readOperand_group]
    rw [List.singleton_append, hsingle, hsingle, left.readParts_trees, right.readParts_trees]
      at hpair
    exact hpair
  | .not operand => by
    have hor : ∀ tree ∈ [Tree.word "NOT", .group operand.trees], tree.isWord "OR" = false := by
      simp
    have hand : ∀ tree ∈ [Tree.word "NOT", .group operand.trees], tree.isWord "AND" = false := by
      simp
    rw [Predicate.trees, readParts, readJoined_single _ _ hor, readConjunction,
      readJoined_single _ _ hand, readOperand_not, readOperand_group, operand.readParts_trees]
    rfl
  | .compare comparison left right => by
    have hright : ∀ tree ∈ right.trees, tree.within sideWords sideSigns = true :=
      fun tree htree => Tree.within_mono (by decide) (by decide) (right.within_trees tree htree)
    obtain ⟨sign, more, hsigns, hjoins, hmore⟩ :
        ∃ sign more, comparison.trees = sign :: more ∧ sign.joinsSides = true ∧
          ∀ tree ∈ sign :: more, tree.within sideWords sideSigns = true := by
      cases comparison <;> exact ⟨_, _, rfl, rfl, by simp [Tree.within, sideSigns]⟩
    have hsides : ∀ tree ∈ sign :: (more ++ right.trees),
        tree.within sideWords sideSigns = true := by
      rw [← List.cons_append, List.forall_mem_append]
      exact ⟨hmore, hright⟩
    simp only [Predicate.connected, Connected.map, Predicate.trees, hsigns, List.cons_append]
    exact readParts_sides left hjoins hsides
  | .isNull operand => readParts_sides operand rfl (by decide)
  | .isNotNull operand => readParts_sides operand rfl (by decide)
  | .like text pattern => by
    have hpattern : ∀ tree ∈ pattern.trees, tree.within sideWords sideSigns = true :=
      fun tree htree => Tree.within_mono (by decide) (by decide) (pattern.within_trees tree htree)
    have hsides : ∀ tree ∈ .word "LIKE" :: pattern.trees,
        tree.within sideWords sideSigns = true := by
      rw [List.forall_mem_cons]
      exact ⟨rfl, hpattern⟩
    exact readParts_sides text rfl hsides
  | .among operand values => by
    have hsides : ∀ tree ∈ [Tree.word "IN", .group (argumentTrees values)],
        tree.within sideWords sideSigns = true := by
      simp [Tree.within, sideWords]
    exact readParts_sides operand rfl hsides

/-- The text of a condition is read as the tree of its connectives, with the texts of the
leaves at its leaves. -/
theorem Predicate.readCondition?_spell (predicate : Predicate) :
    readCondition? (predicate.pieces.spell .sqlServer) =
      some (predicate.connected.map fun leaf => tokens (leaf.pieces.spell .sqlServer)) := by
  have hleaf : ∀ leaf : Predicate, treeTokens leaf.trees = tokens (leaf.pieces.spell .sqlServer) :=
    fun leaf => by rw [leaf.groups_pieces.treeTokens_eq, leaf.calm_pieces.tokens_spell]
  have hgroups : readGroups (tokens (predicate.pieces.spell .sqlServer)) =
      some predicate.trees := by
    rw [predicate.calm_pieces.tokens_spell, readGroups_eq_some_iff]
    exact predicate.groups_pieces
  rw [readCondition?, hgroups, Option.bind_some, predicate.readParts_trees]
  simp only [hleaf]

end Sql

/-! ## Rendered conditions -/

namespace Condition

open Sql

/-- An expression that stands as a condition is a leaf. -/
theorem connected_of_expr {expr : Expr} {values values' : List Value} {predicate : Predicate}
    (hpredicate : expr.predicate values = .ok (predicate, values')) :
    predicate.connected = .leaf predicate := by
  cases expr with
  | field name =>
    cases hpredicate
    rfl
  | value constant =>
    cases constant with
    | bool holds =>
      cases hpredicate
      rfl
    | _ => cases hpredicate
  | search place text term =>
    obtain ⟨_, _, -, hpredicate⟩ := Binding.run_seq_eq_ok.mp hpredicate
    obtain ⟨_, _, -, hpredicate⟩ := Binding.run_seq_eq_ok.mp hpredicate
    cases hpredicate
    rfl
  | among operand options =>
    cases options with
    | nil =>
      cases hpredicate
      rfl
    | cons option rest =>
      obtain ⟨_, _, -, hpredicate⟩ := Binding.run_seq_eq_ok.mp hpredicate
      obtain ⟨_, _, -, hpredicate⟩ := Binding.run_seq_eq_ok.mp hpredicate
      cases hpredicate
      rfl
  | _ => cases hpredicate

/-- A comparison is a leaf. -/
theorem connected_of_compare {comparison : Comparison} {left right : Expr}
    {values values' : List Value} {predicate : Predicate}
    (hpredicate : (compare comparison left right).predicate values = .ok (predicate, values')) :
    predicate.connected = .leaf predicate := by
  unfold Condition.predicate at hpredicate
  cases hbeside : besideNull? left right with
  | some operand =>
    simp only [hbeside] at hpredicate
    cases comparison with
    | equal | notEqual =>
      obtain ⟨_, _, -, hpredicate⟩ := Binding.run_seq_eq_ok.mp hpredicate
      cases hpredicate
      rfl
    | _ => cases hpredicate
  | none =>
    simp only [hbeside] at hpredicate
    obtain ⟨_, _, -, hpredicate⟩ := Binding.run_seq_eq_ok.mp hpredicate
    obtain ⟨_, _, -, hpredicate⟩ := Binding.run_seq_eq_ok.mp hpredicate
    cases hpredicate
    rfl

/-- A single condition is rendered as it is. -/
theorem mapM_predicate_single {condition : Condition} {values values' : List Value}
    {predicate : Predicate} (hpredicate : condition.predicate values = .ok (predicate, values')) :
    [condition].mapM Condition.predicate values = .ok ([predicate], values') := by
  rw [List.mapM_cons, List.mapM_nil]
  exact Binding.run_seq_eq_ok.mpr ⟨predicate, values', hpredicate, rfl⟩

/-- Conditions behind others are rendered behind what these bind. -/
theorem mapM_predicate_append {a b : List Condition} {values between values' : List Value}
    {front back : List Predicate} (ha : a.mapM Condition.predicate values = .ok (front, between))
    (hb : b.mapM Condition.predicate between = .ok (back, values')) :
    (a ++ b).mapM Condition.predicate values = .ok (front ++ back, values') := by
  rw [List.mapM_append]
  exact Binding.run_seq_eq_ok.mpr
    ⟨front, between, ha, Binding.run_seq_eq_ok.mpr ⟨back, values', hb, rfl⟩⟩

/-- Rendering keeps the connectives of a condition and renders its leaves from left to
right. -/
theorem connected_predicate {condition : Condition} {values values' : List Value}
    {predicate : Predicate} (hpredicate : condition.predicate values = .ok (predicate, values')) :
    predicate.connected.shape = condition.connected.shape ∧
      condition.connected.leaves.mapM Condition.predicate values =
        .ok (predicate.connected.leaves, values') := by
  induction condition generalizing values values' predicate with
  | compare comparison left right =>
    rw [connected_of_compare hpredicate]
    exact ⟨rfl, mapM_predicate_single hpredicate⟩
  | holds expr =>
    rw [connected_of_expr hpredicate]
    exact ⟨rfl, mapM_predicate_single hpredicate⟩
  | and left right ihleft ihright | or left right ihleft ihright =>
    obtain ⟨front, between, hfront, hpredicate⟩ := Binding.run_seq_eq_ok.mp hpredicate
    obtain ⟨back, _, hback, hpredicate⟩ := Binding.run_seq_eq_ok.mp hpredicate
    cases hpredicate
    obtain ⟨hleft, hfront⟩ := ihleft hfront
    obtain ⟨hright, hback⟩ := ihright hback
    refine ⟨?_, mapM_predicate_append hfront hback⟩
    simp only [Connected.shape, Predicate.connected, Condition.connected, Connected.map]
      at hleft hright ⊢
    rw [hleft, hright]
  | not operand ih =>
    obtain ⟨inner, _, hinner, hpredicate⟩ := Binding.run_seq_eq_ok.mp hpredicate
    cases hpredicate
    obtain ⟨hshape, hleaves⟩ := ih hinner
    exact ⟨congrArg Connected.not hshape, hleaves⟩

/-- The text of a rendered condition is read as a tree of the shape of the condition.  At the
leaves of that tree stand, from left to right, the texts of its leaves. -/
theorem readCondition?_predicate {condition : Condition} {values values' : List Value}
    {predicate : Predicate} (hpredicate : condition.predicate values = .ok (predicate, values')) :
    ∃ reading leaves,
      readCondition? (predicate.pieces.spell .sqlServer) = some reading ∧
      reading.shape = condition.connected.shape ∧
      condition.connected.leaves.mapM Condition.predicate values = .ok (leaves, values') ∧
      reading.leaves = leaves.map fun leaf => tokens (leaf.pieces.spell .sqlServer) := by
  obtain ⟨hshape, hleaves⟩ := connected_predicate hpredicate
  refine ⟨_, _, predicate.readCondition?_spell, ?_, hleaves, ?_⟩
  · rw [Connected.shape_map, hshape]
  · rw [Connected.leaves_map]

/-- A condition with connectives in the names of fields, in a test and in a value. -/
def connectivesInside : Condition :=
  .not (.and
    (.or (.compare .notEqual (.field ") OR (") (.value .null))
      (.holds (.search .start (.field "NOT [b]") (.value (.text "AND")))))
    (.compare .equal (.among (.field "c") []) (.indexOf (.field "]") (.value (.text "OR")))))

theorem readCondition?_predicate_connectivesInside :
    ∃ predicate values', connectivesInside.predicate [] = .ok (predicate, values') ∧
      ∃ reading leaves,
        readCondition? (predicate.pieces.spell .sqlServer) = some reading ∧
        reading.shape = connectivesInside.connected.shape ∧
        connectivesInside.connected.leaves.mapM Condition.predicate [] = .ok (leaves, values') ∧
        reading.leaves = leaves.map fun leaf => tokens (leaf.pieces.spell .sqlServer) :=
  ⟨_, _, rfl, readCondition?_predicate rfl⟩

end Condition

end SqlScribe
