import CardQuery.Proofs.Grammar.Quoting
import CardQuery.Proofs.Json.Reading
import CardQuery.Proofs.Lexer.Cutting
import CardQuery.Proofs.Number.Numeral
import CardQuery.Proofs.Stored.Normal
import CardQuery.Proofs.Typing.Query

/-!
# Proofs/Stored/RoundTrip — which queries come back from their documents

* `stored_query_returns` — the query of a text, stored and loaded again, is the same query exactly
  if its numbers are finite and its tree is at most 254 objects deep; any other one is refused, by
  `store` if it is too deep and by `load` if a number is not finite.

A document has no room for a number that is not finite, so null stands in its place
(`Json.settled`), and null is no number of a query.  Everything else comes back: `Query.ofJson`
reads `Query.toJson` back for a query with keywords in lower case, and all keywords of a text are.
-/

namespace CardQuery

open Grammar

/-! ## Keywords of a text -/

/-- The names of flags are in lower case. -/
theorem Flag.lower_of_named? {w : String} (h : (named? w).isSome = true) : Text.lower w = w := by
  have hall : ∀ entry ∈ table, Text.lower entry.1 = entry.1 := by decide +kernel
  obtain ⟨flag, hflag⟩ := Option.isSome_iff_exists.mp h
  obtain ⟨before, after, htable, -⟩ := List.lookup_eq_some_iff.mp hflag
  exact hall (w, flag) (by rw [htable]; simp)

theorem Rarity.lower_name (r : Rarity) : Text.lower r.name = r.name := by
  have hall : ∀ r ∈ all, Text.lower r.name = r.name := by decide +kernel
  exact hall r (by cases r <;> decide)

theorem Date.Writes.lower_eq {w : String} {d : Date} (h : Writes w d) : Text.lower w = w := by
  refine Text.lower_eq_self fun c hc => Text.settled_of_lt ?_
  rcases h.isDigit_or_dash hc with hdigit | rfl
  · exact Nat.lt_of_le_of_lt (Char.isDigit_iff_toNat.mp hdigit).2 (by decide)
  · decide

/-- **A value that fits a field has no keyword in capitals.** -/
theorem Value.Fits.isLowered {field : Field} {op : CompareOp} {value : Value}
    (h : value.Fits field op) : value.IsLowered := by
  unfold Fits at h
  cases hk : field.kind <;> rw [hk] at h
  case text | discrete | list =>
    rcases h with ⟨s, rfl⟩ | ⟨p, rfl⟩ <;> trivial
  case color => rcases h with ⟨x, rfl⟩ | ⟨set, rfl⟩ <;> trivial
  case numeric =>
    rcases h with ⟨x, rfl⟩ | ⟨rfl, -, -⟩
    · trivial
    · exact Text.lower_eq_self fun c hc => Text.settled_of_lt (by simp at hc; subst hc; decide)
  case date =>
    obtain ⟨w, d, rfl, hd, -⟩ := h
    exact hd.lower_eq
  case rarity =>
    obtain ⟨r, rfl⟩ := h
    exact r.lower_name
  case legality =>
    obtain ⟨w, rfl, hw⟩ := h
    exact hw
  case flag =>
    obtain ⟨w, rfl, hw⟩ := h
    exact Flag.lower_of_named? hw

/-! ## Values in documents -/

/-- A finite number is equal to itself. -/
theorem Double.same_self {x : Double} (hx : x.isFinite = true) : x.same x = true := by
  cases x with
  | nan | infinite _ => cases hx
  | finite negative significand shift fits =>
    have hself : compare (finite negative significand shift fits).signedUnits
        (finite negative significand shift fits).signedUnits = .eq :=
      Std.ReflCmp.compare_self
    rw [same, order?, hself]
    rfl

namespace Value

/-- Whether a value is no number or a finite one. -/
def isFinite : Value → Bool
  | number x => x.isFinite
  | _ => true

variable {field : Field} {op : CompareOp} {value : Value}

/-- A text that fits a field is a string. -/
theorem Fits.exists_string {content : Json} (h : (text content).Fits field op) :
    ∃ s, content = .string s := by
  unfold Fits at h
  cases hk : field.kind <;> rw [hk] at h <;> simp at h
  all_goals exact h

/-- There is room for a value that fits a field. -/
theorem Fits.wholesFit_toJson (h : value.Fits field op) : value.toJson.wholesFit = true := by
  cases value with
  | text content =>
    obtain ⟨s, rfl⟩ := h.exists_string
    rfl
  | number _ | keyword _ | colors _ | pattern _ => rfl

/-- **A settled value is read back exactly if it is finite.** -/
theorem Fits.ofJson_settled (h : value.Fits field op) :
    ofJson value.toJson.settled = if value.isFinite then .ok value else .error .wrongKind := by
  cases value with
  | text content =>
    obtain ⟨s, rfl⟩ := h.exists_string
    rfl
  | number x =>
    have hsettled : (number x).toJson.settled = .object [("type", .string "number"),
        ("value", if x.isFinite then .double x else .null)] := rfl
    rw [hsettled, isFinite]
    split
    · rfl
    · rfl
  | keyword _ | colors _ | pattern _ => exact ofJson_toJson h.isLowered

theorem Fits.same_self (h : value.Fits field op) (hfinite : value.isFinite = true) :
    value.same value = true := by
  cases value with
  | text content =>
    obtain ⟨s, rfl⟩ := h.exists_string
    exact beq_self_eq_true s
  | number x => exact Double.same_self hfinite
  | keyword w => exact beq_self_eq_true w
  | colors set => exact beq_self_eq_true set
  | pattern p => exact beq_self_eq_true p

end Value

/-! ## Queries in documents -/

namespace Query

/-- Whether all numbers of a query are finite. -/
def isFinite : Query → Bool
  | compare _ _ value => value.isFinite
  | term _ | pattern _ => true
  | and left right | or left right => left.isFinite && right.isFinite
  | not operand => operand.isFinite

variable {q : Query}

/-- There is room for the numbers of a well-typed query. -/
theorem WellTyped.wholesFit_toJson (h : q.WellTyped) : q.toJson.wholesFit = true := by
  induction q with
  | compare field op value =>
    have hsplit : (compare field op value).toJson.wholesFit
      = (value.toJson.wholesFit && true) := rfl
    rw [hsplit, h.2.1.wholesFit_toJson]
    rfl
  | term content =>
    obtain ⟨s, rfl⟩ := h
    rfl
  | pattern p => rfl
  | and left right ihl ihr =>
    have hsplit : (and left right).toJson.wholesFit
      = (left.toJson.wholesFit && (right.toJson.wholesFit && true)) := rfl
    rw [hsplit, ihl h.1, ihr h.2]
    rfl
  | or left right ihl ihr =>
    have hsplit : (or left right).toJson.wholesFit
      = (left.toJson.wholesFit && (right.toJson.wholesFit && true)) := rfl
    rw [hsplit, ihl h.1, ihr h.2]
    rfl
  | not operand ih =>
    have hsplit : (not operand).toJson.wholesFit = (operand.toJson.wholesFit && true) := rfl
    rw [hsplit, ih h]
    rfl

/-- **A settled query is read back exactly if its numbers are finite.** -/
theorem WellTyped.ofJson_settled (h : q.WellTyped) :
    ofJson q.toJson.settled = if q.isFinite then .ok q else .error .wrongKind := by
  induction q with
  | compare field op value =>
    have hread : ofJson (compare field op value).toJson.settled = do
        let value ← Value.ofJson value.toJson.settled
        let field ← fieldOf (.string field.key)
        return .compare field (← operatorOf (.string op.text)) value := rfl
    have hfield : fieldOf (.string field.key) = .ok field := by rw [fieldOf, field.ofKey?_key]
    have hop : operatorOf (.string op.text) = .ok op := by rw [operatorOf, op.ofText?_text]
    rw [hread, h.2.1.ofJson_settled, hfield, hop, isFinite]
    split
    · rfl
    · rfl
  | term content =>
    obtain ⟨s, rfl⟩ := h
    rfl
  | pattern p => exact ofJson_toJson (q := .pattern p) trivial
  | and left right ihl ihr =>
    have hread : ofJson (and left right).toJson.settled
        = do return .and (← ofJson left.toJson.settled) (← ofJson right.toJson.settled) := rfl
    rw [hread, ihl h.1, ihr h.2, isFinite]
    cases left.isFinite <;> cases right.isFinite <;> rfl
  | or left right ihl ihr =>
    have hread : ofJson (or left right).toJson.settled
        = do return .or (← ofJson left.toJson.settled) (← ofJson right.toJson.settled) := rfl
    rw [hread, ihl h.1, ihr h.2, isFinite]
    cases left.isFinite <;> cases right.isFinite <;> rfl
  | not operand ih =>
    have hread : ofJson (not operand).toJson.settled
        = do return .not (← ofJson operand.toJson.settled) := rfl
    rw [hread, ih h, isFinite]
    cases operand.isFinite <;> rfl

/-- **A well-typed query comes back from its document exactly if its numbers are finite and its tree
is not too deep.** -/
theorem WellTyped.store_load (h : q.WellTyped) :
    (q.store >>= load)
      = if q.isFinite && q.toJson.nesting ≤ 254 then .ok q else .error .wrongKind := by
  by_cases hdeep : q.toJson.nesting ≤ 254
  · have hstore : q.toJson.store? = some q.toJson.render := by
      rw [Json.store?, h.wholesFit_toJson, decide_eq_true hdeep]
      rfl
    have hload : load q.toJson.render = ofJson q.toJson.settled := by
      rw [load, Json.load?_of_store? hstore]
    rw [store, hstore, decide_eq_true hdeep, Bool.and_true, ← h.ofJson_settled, ← hload]
    rfl
  · have hstore : q.toJson.store? = none := by
      rw [Json.store?, decide_eq_false hdeep, Bool.and_false]
      rfl
    rw [store, hstore, decide_eq_false hdeep, Bool.and_false]
    rfl

/-- A well-typed query with finite numbers is equal to itself. -/
theorem WellTyped.same_self (h : q.WellTyped) (hfinite : q.isFinite = true) :
    q.same q = true := by
  induction q with
  | compare field op value =>
    simp only [same, beq_self_eq_true, Bool.true_and]
    exact h.2.1.same_self hfinite
  | term content =>
    obtain ⟨s, rfl⟩ := h
    exact beq_self_eq_true s
  | pattern p => exact beq_self_eq_true p
  | and left right ihl ihr | or left right ihl ihr =>
    obtain ⟨hl, hr⟩ := Bool.and_eq_true_iff.mp hfinite
    rw [same, ihl h.1 hl, ihr h.2 hr]
    rfl
  | not operand ih => exact ih h hfinite

/-! ## Digits as a query -/

/-- Digits after `pow:`. -/
def powerOf (ds : List Char) : String := String.ofList ('p' :: 'o' :: 'w' :: ':' :: ds)

/-- Digits ask for the power that is nearest to the number that they write. -/
theorem parse_powerOf {ds : List Char} (hds : IsDigits ds) (hne : ds ≠ []) :
    parse (powerOf ds) = .ok (.compare .power .colon
      (.number (Double.ofDecimal false ⟨Nat.ofDigitChars 10 ds 0, 0⟩))) := by
  have hplain : isPlainNumeral (Text.trim (String.ofList ds)).toList = true := by
    have htrim : Text.trimBy Text.isBlank ds = ds := trimBy_eq_self fun c hc =>
      Text.isBlank_eq_false_of_isDigit (hds.isDigit c hc)
    rw [Text.trim, String.toList_ofList, String.toList_ofList, htrim]
    exact isPlainNumeral_of_digits hne hds.isDigit
  have hstar : String.ofList ds ≠ "*" := by
    intro heq
    have hchars : ds = ['*'] := by rw [← String.toList_ofList (l := ds), heq]; rfl
    rw [hchars] at hds
    exact absurd (hds '*' List.mem_cons_self) (by decide)
  have hvalue : Value.ofWritten .power .colon (String.ofList ds)
      = .ok (.number (Double.ofDecimal false ⟨Nat.ofDigitChars 10 ds 0, 0⟩)) := by
    have hkind : Value.ofText .power (String.ofList ds)
      = Value.numericOfText .power (String.ofList ds) := rfl
    rw [Value.ofWritten, beq_false_of_ne hstar, Bool.false_and, if_neg Bool.false_ne_true, hkind,
      Value.numericOfText, if_pos hplain, Value.numberOfText, readDouble?_digits hds hne]
  have htyped (v : Token) (hv : v.kind = .word) (hword : v.text = String.ofList ds) :
      Value.ofToken (m := Id) Pattern.make .power .colon v
        = .ok (.number (Double.ofDecimal false ⟨Nat.ofDigitChars 10 ds 0, 0⟩)) := by
    rw [Value.ofToken, hv, hword]
    exact hvalue
  obtain ⟨d, more, rfl⟩ := List.exists_cons_of_ne_nil hne
  have hother {e : Char} (he : e.isDigit = false) : d ≠ e := by
    rintro rfl
    cases (hds d List.mem_cons_self).symm.trans he
  have hcuts (before : List Char) (place : Nat) : ∃ stop, Cuts true before place (d :: more)
      [⟨.word, String.ofList (d :: more), place, stop⟩] :=
    ⟨_, cuts_word before place (hother rfl) fun c hc => isValueChar_of_isDigit (hds c hc)⟩
  have hname : "pow" ∈ Field.power.aliases := by decide
  have hparse := parse_comparison hname (by decide) (operatorAt?_text_cons .colon (hother rfl) more) rfl
    hcuts htyped fun hcolor => absurd hcolor.1 (by decide)
  have htext : powerOf (d :: more) = "pow" ++ CompareOp.colon.text ++ String.ofList (d :: more) := by
    rw [← String.toList_inj]
    simp [powerOf, CompareOp.text]
  rw [htext, hparse]

/-! ## Queries of texts -/

/-- **A query comes back from its document exactly if there is room for it.**  The query of a text
is stored and loaded again as the same query, and as an equal one, if all its numbers are finite and
its tree is at most 254 objects deep; every other query is refused on the way. -/
theorem stored_query_returns {text : String} {q : Query} (h : parse text = .ok q) :
    (q.store >>= load)
        = (if q.isFinite && q.toJson.nesting ≤ 254 then .ok q else .error .wrongKind)
      ∧ (q.isFinite = true → q.same q = true) :=
  ⟨(parse_wellTyped h).store_load, (parse_wellTyped h).same_self⟩

/-- A text with most kinds of values, with characters that have to be escaped in a document. -/
def manyKinds : String :=
  "(o:\"a\\b\tü\" or -/\\d+/i) pow>=2.5 c<=wu f:MODERN date<2020-W05"

theorem manyKinds_returns :
    ∃ q, parse manyKinds = .ok q ∧ (q.store >>= load) = .ok q ∧ q.same q = true := by
  have hok : (parse manyKinds).toOption.any
      (fun q => q.isFinite && q.toJson.nesting ≤ 254) = true := by decide +kernel
  cases h : parse manyKinds with
  | error f =>
    rw [h] at hok
    cases hok
  | ok q =>
    obtain ⟨hreturn, hsame⟩ := stored_query_returns h
    rw [h] at hok
    have hroom : (q.isFinite && decide (q.toJson.nesting ≤ 254)) = true := hok
    rw [if_pos hroom] at hreturn
    exact ⟨q, rfl, hreturn, hsame (Bool.and_eq_true_iff.mp hroom).1⟩

/-- **Not every query comes back**: a numeral beyond the range of the finite numbers is read as an
infinite one, which no document has room for. -/
theorem overflowing_query_lost :
    ∃ q, parse (powerOf ('1' :: List.replicate 309 '0')) = .ok q
      ∧ ¬ ∃ document r, q.store = .ok document ∧ load document = .ok r ∧ r.same q = true := by
  have hds : IsDigits ('1' :: List.replicate 309 '0') :=
    List.forall_mem_cons.mpr ⟨rfl, IsDigits.zeros 309⟩
  have hparse := parse_powerOf hds (List.cons_ne_nil _ _)
  have hinfinite : (Double.ofDecimal false
      ⟨Nat.ofDigitChars 10 ('1' :: List.replicate 309 '0') 0, 0⟩).isFinite = false := by
    decide +kernel
  have hlost := (parse_wellTyped hparse).store_load
  rw [isFinite, Value.isFinite, hinfinite] at hlost
  refine ⟨_, hparse, ?_⟩
  rintro ⟨document, r, hstore, hload, -⟩
  rw [hstore] at hlost
  cases hlost.symm.trans hload

end Query

end CardQuery
