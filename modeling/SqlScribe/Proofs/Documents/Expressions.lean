import SqlScribe.Condition
import SqlScribe.Proofs.Documents.Records

/-!
# Expressions and conditions read back

Expressions and conditions are trees, and their readers descend no deeper than the document they
were given.  The document of a part is less deep than that of the whole, so the depth that is
left always suffices for it.

Main definitions:

- `Expr.values` and `Condition.values` list the constants inside a tree.
- `Json.ReadAs` says that a document is read as a value at every depth that it has room in.

Main results:

- `Expr.readAs_toJson` and `Expr.ofJson?_toJson`: expressions are read back.
- `Condition.ofJson?_toJson`: conditions are read back.
-/

namespace SqlScribe

namespace Json

/-- Every document has a depth. -/
theorem depth_pos (document : Json) : 0 < document.depth := by
  cases document <;> simp [depth]

@[simp] theorem depth_object (members : List (String × Json)) :
    depth (.object members) = depthOfMembers members + 1 := by rw [depth]

@[simp] theorem depth_array (items : List Json) :
    depth (.array items) = depthOfItems items + 1 := by rw [depth]

@[simp] theorem depthOfMembers_cons (name : String) (document : Json)
    (rest : List (String × Json)) :
    depthOfMembers ((name, document) :: rest) = max document.depth (depthOfMembers rest) := by
  rw [depthOfMembers]

@[simp] theorem depthOfMembers_nil : depthOfMembers [] = 0 := by rw [depthOfMembers]

/-- Members are as deep as the deeper of their two parts. -/
@[simp] theorem depthOfMembers_append (first second : List (String × Json)) :
    depthOfMembers (first ++ second) = max (depthOfMembers first) (depthOfMembers second) := by
  induction first with
  | nil => simp
  | cons member rest ih =>
    obtain ⟨name, document⟩ := member
    simp [ih, Nat.max_assoc]

/-- A member is less deep than the object that it stands in. -/
theorem depth_lt_of_mem (name : String) {document : Json} {members : List (String × Json)}
    (hmem : (name, document) ∈ members) : document.depth < depth (.object members) := by
  obtain ⟨before, after, rfl⟩ := List.append_of_mem hmem
  simp only [depth_object, depthOfMembers_append, depthOfMembers_cons]
  omega

@[simp] theorem depthOfItems_cons (document : Json) (rest : List Json) :
    depthOfItems (document :: rest) = max document.depth (depthOfItems rest) := by
  rw [depthOfItems]

@[simp] theorem depthOfItems_nil : depthOfItems [] = 0 := by rw [depthOfItems]

/-- Whether a reader of limited depth reads a document as a value, at every depth that the
document has room in. -/
def ReadAs {α : Type} (readWithin : Nat → Json → Option α) (document : Json) (value : α) : Prop :=
  ∀ depth, document.depth ≤ depth → readWithin depth document = some value

/-- Every depth that a document has room in leaves some for what is inside it. -/
theorem readAs_of_succ {α : Type} {readWithin : Nat → Json → Option α} {document : Json}
    {value : α}
    (hread : ∀ depth, document.depth ≤ depth + 1 → readWithin (depth + 1) document = some value) :
    ReadAs readWithin document value := by
  intro depth hdepth
  have hpos := document.depth_pos
  obtain ⟨rest, rfl⟩ : ∃ rest, depth = rest + 1 := Nat.exists_eq_succ_of_ne_zero (by omega)
  exact hread rest hdepth

/-- No items are read of an empty list, at any depth. -/
theorem readAs_nil {α : Type} (readWithin : Nat → Json → Option α) :
    ReadAs (fun depth => listOf? (readWithin depth)) (.array []) [] :=
  fun _ _ => rfl

/-- A list is read at what is left for its items. -/
theorem readAs_cons {α : Type} {readWithin : Nat → Json → Option α} {document : Json}
    {documents : List Json} {item : α} {items : List α} (hitem : ReadAs readWithin document item)
    (hrest : ReadAs (fun depth => listOf? (readWithin depth)) (.array documents) items) :
    ReadAs (fun depth => listOf? (readWithin depth)) (.array (document :: documents))
      (item :: items) := by
  intro depth hdepth
  simp only [depth_array, depthOfItems_cons] at hdepth
  have hroom : (Json.array documents).depth ≤ depth := by
    rw [depth_array]
    omega
  exact listOf?_cons (hitem depth (by omega)) (hrest depth hroom)

end Json

/-! ## Expressions -/

namespace Expr

mutual

/-- The constants inside an expression. -/
def values : Expr → List Value
  | .field _ => []
  | .value constant => [constant]
  | .upper text | .lower text | .trim text | .length text => text.values
  | .substring text start count => text.values ++ (start.values ++ optionValues count)
  | .replace text term replacement =>
    text.values ++ (term.values ++ replacement.values)
  | .indexOf text term => text.values ++ term.values
  | .concat parts | .coalesce parts => listValues parts
  | .convert operand _ => operand.values
  | .search _ text term => text.values ++ term.values
  | .among operand candidates => operand.values ++ listValues candidates

/-- The constants inside an optional expression. -/
def optionValues : Option Expr → List Value
  | none => []
  | some expr => expr.values

/-- The constants inside several expressions. -/
def listValues : List Expr → List Value
  | [] => []
  | expr :: rest => expr.values ++ listValues rest

end

/-- A function is read if its payload is, at the depth that is left for it. -/
theorem readAs_functionJson {name : String} {payload : Json} {expr : Expr}
    (hpayload : ∀ depth, payload.depth ≤ depth →
      functionOf? (readWithin? depth) name payload = some expr) :
    Json.ReadAs readWithin? (functionJson name payload) expr := by
  refine Json.readAs_of_succ fun depth hdepth => ?_
  simp only [functionJson, Json.depth_object, Json.depthOfMembers_cons,
    Json.depthOfMembers_nil] at hdepth
  exact hpayload depth (by omega)

/-- A function of one text is read if the text is. -/
theorem readAs_ofText {name : String} {function : Expr → Expr} {text : Expr}
    (hname : ∀ read payload, functionOf? read name payload = (read payload).map function)
    (htext : Json.ReadAs readWithin? text.toJson text) :
    Json.ReadAs readWithin? (functionJson name text.toJson) (function text) :=
  readAs_functionJson fun depth hdepth => by rw [hname, htext depth hdepth, Option.map_some]

/-- A function of any number of parts is read if the parts are. -/
theorem readAs_ofParts {name : String} {function : List Expr → Expr} {parts : List Expr}
    (hname : ∀ read payload,
      functionOf? read name payload = (Json.listOf? read payload).map function)
    (hparts : Json.ReadAs (fun depth => Json.listOf? (readWithin? depth))
      (.array (listToJson parts)) parts) :
    Json.ReadAs readWithin? (functionJson name (.array (listToJson parts))) (function parts) := by
  refine readAs_functionJson fun depth hdepth => ?_
  have hread : Json.listOf? (readWithin? depth) (.array (listToJson parts)) = some parts :=
    hparts depth hdepth
  rw [hname, hread, Option.map_some]

/-- An expression is never written as null. -/
theorem toJson_ne_null (expr : Expr) : expr.toJson ≠ .null := by
  cases expr <;> simp [toJson, functionJson]

/-- A search is read from the two texts of its payload, wherever its place is. -/
theorem functionOf?_placeName (read : Json → Option Expr) (place : SearchPlace) (payload : Json) :
    functionOf? read (placeName place) payload = (do
      let record ← payload.fields? ["text", "value"]
      let text ← record.required? "text" read
      let term ← record.required? "value" read
      some (.search place text term)) := by
  cases place <;> rfl

/-- A text that is searched and the text it is searched for. -/
theorem fields?_searched (text term : Json) :
    Json.fields? ["text", "value"] (.object [("text", text), ("value", term)]) =
      some ⟨[("text", text), ("value", term)]⟩ :=
  Json.fields?_object (by simp) (by simp)

mutual

/-- The document of an expression is read as the expression. -/
theorem readAs_toJson (expr : Expr) (hfinite : Value.AllFinite expr.values) :
    Json.ReadAs readWithin? expr.toJson expr := by
  cases expr with
  | field name =>
    rw [toJson]
    exact Json.readAs_of_succ fun depth _ => rfl
  | value constant =>
    rw [values, Value.allFinite_singleton] at hfinite
    rw [toJson]
    exact Json.readAs_of_succ fun depth _ => by
      simp [readWithin?, Json.variant?, Value.ofJson?_toJson hfinite]
  | upper text =>
    rw [values] at hfinite
    rw [toJson]
    exact readAs_ofText (fun _ _ => rfl) (readAs_toJson text hfinite)
  | lower text =>
    rw [values] at hfinite
    rw [toJson]
    exact readAs_ofText (fun _ _ => rfl) (readAs_toJson text hfinite)
  | trim text =>
    rw [values] at hfinite
    rw [toJson]
    exact readAs_ofText (fun _ _ => rfl) (readAs_toJson text hfinite)
  | length text =>
    rw [values] at hfinite
    rw [toJson]
    exact readAs_ofText (fun _ _ => rfl) (readAs_toJson text hfinite)
  | substring text start count =>
    simp only [values, Value.allFinite_append] at hfinite
    have htext := readAs_toJson text hfinite.1
    have hstart := readAs_toJson start hfinite.2.1
    have hcount := taken_optionToJson count hfinite.2.2
    rw [toJson]
    refine readAs_functionJson fun depth hdepth => ?_
    simp only [Json.depth_object, Json.depthOfMembers_cons, Json.depthOfMembers_nil] at hdepth
    simp [functionOf?, Json.fields?_object, Record.required?, htext depth (by omega),
      hstart depth (by omega), hcount depth (by omega)]
  | replace text term replacement =>
    simp only [values, Value.allFinite_append] at hfinite
    have htext := readAs_toJson text hfinite.1
    have hterm := readAs_toJson term hfinite.2.1
    have hreplacement := readAs_toJson replacement hfinite.2.2
    rw [toJson]
    refine readAs_functionJson fun depth hdepth => ?_
    simp only [Json.depth_object, Json.depthOfMembers_cons, Json.depthOfMembers_nil] at hdepth
    simp [functionOf?, Json.fields?_object, Record.required?, htext depth (by omega),
      hterm depth (by omega), hreplacement depth (by omega)]
  | indexOf text term =>
    simp only [values, Value.allFinite_append] at hfinite
    have htext := readAs_toJson text hfinite.1
    have hterm := readAs_toJson term hfinite.2
    rw [toJson]
    refine readAs_functionJson fun depth hdepth => ?_
    simp only [Json.depth_object, Json.depthOfMembers_cons, Json.depthOfMembers_nil] at hdepth
    simp [functionOf?, fields?_searched, Record.required?, htext depth (by omega),
      hterm depth (by omega)]
  | concat parts =>
    rw [values] at hfinite
    rw [toJson]
    exact readAs_ofParts (fun _ _ => rfl) (readAs_listToJson parts hfinite)
  | coalesce parts =>
    rw [values] at hfinite
    rw [toJson]
    exact readAs_ofParts (fun _ _ => rfl) (readAs_listToJson parts hfinite)
  | convert operand type =>
    rw [values] at hfinite
    have hoperand := readAs_toJson operand hfinite
    rw [toJson]
    refine readAs_functionJson fun depth hdepth => ?_
    simp only [Json.depth_object, Json.depthOfMembers_cons, Json.depthOfMembers_nil] at hdepth
    simp [functionOf?, Json.fields?_object, Record.required?, hoperand depth (by omega)]
  | search place text term =>
    simp only [values, Value.allFinite_append] at hfinite
    have htext := readAs_toJson text hfinite.1
    have hterm := readAs_toJson term hfinite.2
    rw [toJson]
    refine readAs_functionJson fun depth hdepth => ?_
    simp only [Json.depth_object, Json.depthOfMembers_cons, Json.depthOfMembers_nil] at hdepth
    simp [functionOf?_placeName, fields?_searched, Record.required?, htext depth (by omega),
      hterm depth (by omega)]
  | among operand candidates =>
    simp only [values, Value.allFinite_append] at hfinite
    have hoperand := readAs_toJson operand hfinite.1
    have hcandidates := readAs_listToJson candidates hfinite.2
    rw [toJson]
    refine readAs_functionJson fun depth hdepth => ?_
    simp only [Json.depth_object, Json.depthOfMembers_cons, Json.depthOfMembers_nil] at hdepth
    simp [functionOf?, Json.fields?_object, Record.required?, hoperand depth (by omega),
      hcandidates depth (by omega)]

/-- An optional expression, written as null if it is absent, is read back. -/
theorem taken_optionToJson (count : Option Expr) (hfinite : Value.AllFinite (optionValues count)) :
    ∀ depth, (optionToJson count).depth ≤ depth →
      Record.taken (readWithin? depth) (some (optionToJson count)) = some count := by
  cases count with
  | none => exact fun depth _ => by rw [optionToJson]; rfl
  | some expr =>
    rw [optionValues] at hfinite
    have hexpr := readAs_toJson expr hfinite
    rw [optionToJson]
    intro depth hdepth
    have hread : ∀ part ∈ some expr, part.toJson ≠ .null ∧
        readWithin? depth part.toJson = some part := by
      rintro part ⟨⟩
      exact ⟨expr.toJson_ne_null, hexpr depth hdepth⟩
    exact Record.taken_map hread

/-- The documents of several expressions are read as these expressions. -/
theorem readAs_listToJson (parts : List Expr) (hfinite : Value.AllFinite (listValues parts)) :
    Json.ReadAs (fun depth => Json.listOf? (readWithin? depth)) (.array (listToJson parts))
      parts := by
  cases parts with
  | nil => exact Json.readAs_nil _
  | cons expr rest =>
    rw [listValues, Value.allFinite_append] at hfinite
    exact Json.readAs_cons (readAs_toJson expr hfinite.1) (readAs_listToJson rest hfinite.2)

end

/-- An expression without numbers that are not finite is read back from its document. -/
theorem ofJson?_toJson {expr : Expr} (hfinite : Value.AllFinite expr.values) :
    ofJson? expr.toJson = some expr :=
  expr.readAs_toJson hfinite _ le_rfl

end Expr

/-! ## Conditions -/

/-- A comparison is read back from its name. -/
theorem Comparison.ofJson?_documentName (comparison : Comparison) :
    ofJson? (.text comparison.documentName) = some comparison := by
  cases comparison <;> rfl

namespace Condition

/-- The constants inside a condition. -/
def values : Condition → List Value
  | .compare _ left right => left.values ++ right.values
  | .and left right | .or left right => left.values ++ right.values
  | .not operand => operand.values
  | .holds expr => expr.values

/-- A condition is never written as null. -/
theorem toJson_ne_null (condition : Condition) : condition.toJson ≠ .null := by
  cases condition <;> simp [toJson]

/-- Two conditions in an array are read if each of them is. -/
theorem pair?_array {read : Json → Option Condition} {left right : Condition}
    (hleft : read left.toJson = some left) (hright : read right.toJson = some right) :
    pair? read (.array [left.toJson, right.toJson]) = some (left, right) := by
  simp [pair?, hleft, hright]

/-- The document of a condition is read as the condition. -/
theorem readAs_toJson {condition : Condition} (hfinite : Value.AllFinite condition.values) :
    Json.ReadAs readWithin? condition.toJson condition := by
  induction condition with
  | compare comparison left right =>
    simp only [values, Value.allFinite_append] at hfinite
    exact Json.readAs_of_succ fun depth _ => by
      simp [toJson, readWithin?, Json.variant?, Json.fields?_object, Record.required?,
        Comparison.ofJson?_documentName, Expr.ofJson?_toJson hfinite.1,
        Expr.ofJson?_toJson hfinite.2]
  | and left right ihleft ihright =>
    simp only [values, Value.allFinite_append] at hfinite
    refine Json.readAs_of_succ fun depth hdepth => ?_
    simp only [toJson, Json.depth_object, Json.depthOfMembers_cons, Json.depth_array,
      Json.depthOfItems_cons] at hdepth
    have hpair := pair?_array (ihleft hfinite.1 depth (by omega))
      (ihright hfinite.2 depth (by omega))
    simp [toJson, readWithin?, Json.variant?, hpair]
  | or left right ihleft ihright =>
    simp only [values, Value.allFinite_append] at hfinite
    refine Json.readAs_of_succ fun depth hdepth => ?_
    simp only [toJson, Json.depth_object, Json.depthOfMembers_cons, Json.depth_array,
      Json.depthOfItems_cons] at hdepth
    have hpair := pair?_array (ihleft hfinite.1 depth (by omega))
      (ihright hfinite.2 depth (by omega))
    simp [toJson, readWithin?, Json.variant?, hpair]
  | not operand ih =>
    refine Json.readAs_of_succ fun depth hdepth => ?_
    simp only [toJson, Json.depth_object, Json.depthOfMembers_cons] at hdepth
    simp [toJson, readWithin?, Json.variant?, ih hfinite depth (by omega)]
  | holds expr =>
    exact Json.readAs_of_succ fun depth _ => by
      simp [toJson, readWithin?, Json.variant?, Expr.ofJson?_toJson hfinite]

/-- A condition without numbers that are not finite is read back from its document. -/
theorem ofJson?_toJson {condition : Condition} (hfinite : Value.AllFinite condition.values) :
    ofJson? condition.toJson = some condition :=
  readAs_toJson hfinite _ le_rfl

end Condition

end SqlScribe
