import CardQuery.Proofs.Text.LowerCase
import CardQuery.Query.Stored

/-!
# Proofs/Stored/Normal — what was read is written in its normal form

A tree of objects may spell a query in many ways: keywords in any case, colors by a name or in any
order, numbers as texts, patterns without flags.

* `ofJson_toJson` — a query whose keywords are in lower case is read back from its own tree.
* `reading_normalizes` — what was read of any tree is such a query, so that its own tree stands for
  it and for nothing else.

Each part of a value is read back from what it is written as: a field from its key, an operator from
its text, a set of colors from its letters (`ColorSet.read_text`) and a pattern from its source and
flags (`Pattern.compile_source`).
-/

namespace CardQuery

/-! ## The parts -/

theorem Field.ofKey?_key (field : Field) : ofKey? field.key = some field := by
  cases field <;> rfl

theorem CompareOp.ofText?_text (op : CompareOp) : ofText? op.text = some op := by
  cases op <;> rfl

/-- **The letters of a set of colors stand for it**: no run of them is the name of another set. -/
theorem ColorSet.read_text (set : ColorSet) : read set.text = set := by
  have hall : ∀ w u b r g : Bool, read (text ⟨w, u, b, r, g⟩) = ⟨w, u, b, r, g⟩ := by
    decide +kernel
  exact hall set.white set.blue set.black set.red set.green

/-- **A pattern compiles again.** -/
theorem Pattern.compile_source (p : Pattern) : compile p.source p.flags = .ok p := by
  unfold compile make
  split
  · exact congrArg Except.ok (ext rfl rfl)
  · rename_i refusal hrefusal
    have hcompiled := p.compiled
    rw [hrefusal] at hcompiled
    cases hcompiled

/-! ## Values -/

/-- A value that is no keyword or is one in lower case. -/
def Value.IsLowered : Value → Prop
  | keyword word => Text.lower word = word
  | _ => True

namespace Value

/-- **A value is read back from its own tree.** -/
theorem ofJson_toJson {v : Value} (h : v.IsLowered) : ofJson v.toJson = .ok v := by
  cases v with
  | text content => rfl
  | number x => rfl
  | keyword word =>
    have hword : ofWord word = keyword word := congrArg keyword h
    exact congrArg Except.ok hword
  | colors set => exact congrArg (fun s => Except.ok (colors s)) set.read_text
  | pattern p =>
    have hread : ofJson (pattern p).toJson = (Pattern.compile p.source p.flags).map pattern := rfl
    rw [hread, p.compile_source]
    rfl

/-- What is read of a tree is no keyword or one in lower case. -/
theorem isLowered_of_ofJson {j : Json} {v : Value} (h : ofJson j = .ok v) : v.IsLowered := by
  obtain ⟨type, -, h⟩ := bind_eq_ok_iff.mp h
  split at h
  · obtain ⟨content, -, h⟩ := bind_eq_ok_iff.mp h
    cases h
    trivial
  · obtain ⟨content, -, h⟩ := bind_eq_ok_iff.mp h
    obtain ⟨x, -, h⟩ := bind_eq_ok_iff.mp h
    cases h
    trivial
  · obtain ⟨content, -, h⟩ := bind_eq_ok_iff.mp h
    obtain ⟨word, -, h⟩ := bind_eq_ok_iff.mp h
    cases h
    exact Text.lower_lower word
  · obtain ⟨content, -, h⟩ := bind_eq_ok_iff.mp h
    obtain ⟨letters, -, h⟩ := bind_eq_ok_iff.mp h
    cases h
    trivial
  · obtain ⟨source, -, h⟩ := bind_eq_ok_iff.mp h
    obtain ⟨members, -, h⟩ := bind_eq_ok_iff.mp h
    obtain ⟨p, -, h⟩ := bind_eq_ok_iff.mp h
    cases h
    trivial
  · cases h

end Value

/-! ## Queries -/

namespace Query

/-- A query of which all keywords are in lower case. -/
def IsLowered : Query → Prop
  | compare _ _ value => value.IsLowered
  | term _ | pattern _ => True
  | and left right | or left right => left.IsLowered ∧ right.IsLowered
  | not operand => operand.IsLowered

/-- **A query is read back from its own tree.** -/
theorem ofJson_toJson {q : Query} (h : q.IsLowered) : ofJson q.toJson = .ok q := by
  induction q with
  | compare field op value =>
    have hread : ofJson (compare field op value).toJson = do
        let value ← Value.ofJson value.toJson
        let field ← fieldOf (.string field.key)
        return .compare field (← operatorOf (.string op.text)) value := rfl
    have hfield : fieldOf (.string field.key) = .ok field := by rw [fieldOf, field.ofKey?_key]
    have hop : operatorOf (.string op.text) = .ok op := by rw [operatorOf, op.ofText?_text]
    rw [hread, Value.ofJson_toJson h, hfield, hop]
    rfl
  | term content => rfl
  | pattern p =>
    have hread : ofJson (pattern p).toJson
        = Value.ofJson (Value.pattern p).toJson >>= ofValue := rfl
    rw [hread, Value.ofJson_toJson (v := .pattern p) trivial]
    rfl
  | and left right ihl ihr =>
    have hread : ofJson (and left right).toJson
        = do return .and (← ofJson left.toJson) (← ofJson right.toJson) := rfl
    rw [hread, ihl h.1, ihr h.2]
    rfl
  | or left right ihl ihr =>
    have hread : ofJson (or left right).toJson
        = do return .or (← ofJson left.toJson) (← ofJson right.toJson) := rfl
    rw [hread, ihl h.1, ihr h.2]
    rfl
  | not operand ih =>
    have hread : ofJson (not operand).toJson = do return .not (← ofJson operand.toJson) := rfl
    rw [hread, ih h]
    rfl

/-- What a comparison is read as has a value that was read. -/
theorem isLowered_of_comparisonOf {j : Json} {q : Query} (h : comparisonOf j = .ok q) :
    q.IsLowered := by
  obtain ⟨fieldText, -, h⟩ := bind_eq_ok_iff.mp h
  obtain ⟨opText, -, h⟩ := bind_eq_ok_iff.mp h
  obtain ⟨content, -, h⟩ := bind_eq_ok_iff.mp h
  obtain ⟨value, hvalue, h⟩ := bind_eq_ok_iff.mp h
  obtain ⟨field, -, h⟩ := bind_eq_ok_iff.mp h
  obtain ⟨op, -, h⟩ := bind_eq_ok_iff.mp h
  cases h
  exact Value.isLowered_of_ofJson hvalue

theorem isLowered_of_patternOf {j : Json} {q : Query} (h : patternOf j = .ok q) :
    q.IsLowered := by
  obtain ⟨content, -, h⟩ := bind_eq_ok_iff.mp h
  obtain ⟨value, -, h⟩ := bind_eq_ok_iff.mp h
  cases value with
  | pattern p =>
    cases h
    trivial
  | _ => cases h

theorem isLowered_of_leafOf {j : Json} {q : Query} (h : leafOf j = .ok q) : q.IsLowered := by
  obtain ⟨type, -, h⟩ := bind_eq_ok_iff.mp h
  split at h
  · exact isLowered_of_comparisonOf h
  · obtain ⟨content, -, h⟩ := bind_eq_ok_iff.mp h
    cases h
    trivial
  · exact isLowered_of_patternOf h
  · cases h

mutual

/-- **What is read of a tree has its keywords in lower case.** -/
theorem isLowered_of_ofJson : ∀ {j : Json} {q : Query}, ofJson j = .ok q → q.IsLowered
  | .object members, q, h => by
    rw [ofJson] at h
    split at h
    · obtain ⟨left, hleft, h⟩ := bind_eq_ok_iff.mp h
      obtain ⟨right, hright, h⟩ := bind_eq_ok_iff.mp h
      cases h
      exact ⟨isLowered_of_ofMember hleft, isLowered_of_ofMember hright⟩
    · obtain ⟨left, hleft, h⟩ := bind_eq_ok_iff.mp h
      obtain ⟨right, hright, h⟩ := bind_eq_ok_iff.mp h
      cases h
      exact ⟨isLowered_of_ofMember hleft, isLowered_of_ofMember hright⟩
    · obtain ⟨operand, hoperand, h⟩ := bind_eq_ok_iff.mp h
      have hlowered : operand.IsLowered := isLowered_of_ofMember hoperand
      cases h
      exact hlowered
    · exact isLowered_of_leafOf h
  | .null, _, h | .bool _, _, h | .int _, _, h | .double _, _, h | .string _, _, h
  | .array _, _, h => by cases h

theorem isLowered_of_ofMember {key : String} :
    ∀ {members : List (String × Json)} {q : Query}, ofMember key members = .ok q → q.IsLowered
  | [], _, h => by cases h
  | (k, v) :: rest, q, h => by
    rw [ofMember] at h
    split at h
    · exact isLowered_of_ofJson h
    · exact isLowered_of_ofMember h

end

/-- **Reading normalizes once and for all.**  Whatever tree a query was read of, and however that
tree spells it, the query's own tree is read as the same query again, and so is written as the same
tree. -/
theorem reading_normalizes {j : Json} {q : Query} (h : ofJson j = .ok q) :
    ofJson q.toJson = .ok q ∧ (ofJson q.toJson).map toJson = .ok q.toJson := by
  have hread : ofJson q.toJson = .ok q := ofJson_toJson (isLowered_of_ofJson h)
  rw [hread]
  exact ⟨rfl, rfl⟩

/-- A tree with a keyword in capitals, colors by the name of a group, a number as a text that is not
finite and a pattern without flags. -/
def looseTree : Json :=
  .object [("type", .string "or"),
    ("left", .object [("type", .string "and"),
      ("left", .object [("type", .string "comparison"), ("field", .string "format"),
        ("operator", .string ":"),
        ("value", .object [("type", .string "keyword"), ("value", .string "MODERN")])]),
      ("right", .object [("type", .string "comparison"), ("field", .string "identity"),
        ("operator", .string "<="),
        ("value", .object [("type", .string "colors"), ("value", .string " Azorius")])])]),
    ("right", .object [("type", .string "and"),
      ("left", .object [("type", .string "comparison"), ("field", .string "power"),
        ("operator", .string "<"),
        ("value", .object [("type", .string "number"), ("value", .string "-Infinity")])]),
      ("right", .object [("type", .string "not"),
        ("operand", .object [("type", .string "bare_regex"),
          ("value", .object [("type", .string "regex"), ("value", .string "^gob")])])])])]

theorem looseTree_normalizes :
    ∃ q, ofJson looseTree = .ok q ∧ ofJson q.toJson = .ok q
      ∧ (ofJson q.toJson).map toJson = .ok q.toJson := by
  have hok : (ofJson looseTree).toBool = true := by decide +kernel
  rcases h : ofJson looseTree with fault | q
  · rw [h] at hok
    cases hok
  · exact ⟨q, rfl, reading_normalizes h⟩

end Query

end CardQuery
