import CardQuery.Proofs.Typing.Query
import CardQuery.Query.Explanation
import Mathlib.Data.List.Chain

/-!
# Proofs/Explanation/Heading — the words before a value

The explanation of a comparison is a heading, which says what is compared and how, and the word for
the value behind it.  A heading is told by the field, the operator and the form of the value, and
several of these say the same: `Heading.canonical` picks one of them.

* `toList_explainComparison` — a comparison is explained by its heading and the word behind it.
* `Heading.eq_of_append` — no canonical heading begins another one, but for the two of the flags.

The canonical headings are kept in the order of their texts (`Heading.all`).  Any two neighbours there
differ at a character that both have, with the smaller one in the former (`diverges`), so any two
headings do.
-/

namespace CardQuery

/-! ## Headings -/

/-- How the word for a value stands behind a heading. -/
inductive Form where
  /-- A text in quotes. -/
  | quoted
  /-- A pattern between slashes. -/
  | slashed
  /-- A number of colors. -/
  | counted
  /-- A word without marks. -/
  | bare
deriving DecidableEq

namespace Value

/-- The form of a value of a kind of fields. -/
def form (kind : FieldKind) : Value → Form
  | text _ => .quoted
  | pattern _ => .slashed
  | number _ => if kind = .color then .counted else .bare
  | _ => .bare

/-- The word for a value, with the mark that ends it. -/
def word : Value → List Char
  | text content => content.text.toList ++ ['"']
  | pattern p => p.source.toList ++ '/' :: p.flags.toList
  | v => v.explain.toList

end Value

namespace Form

/-- The mark that opens a word. -/
def mark : Form → List Char
  | quoted => ['"']
  | slashed => ['/']
  | counted | bare => []

/-- The operator of a comparison, in words. -/
def verb (form : Form) (kind : FieldKind) (op : CompareOp) : List Char :=
  match kind with
  | .color => op.betweenColors.toList
  | .numeric | .rarity | .date => op.betweenNumbers.toList
  | _ =>
    if form = .slashed then (if op = .ne then "does not match".toList else "matches".toList)
    else if kind = .discrete && op = .colon then "is".toList
    else op.inWords.toList

/-- Whether values of a kind of fields come in a form. -/
def suits (form : Form) : FieldKind → Bool
  | .text | .discrete | .list => form = .quoted || form = .slashed
  | .color => form = .bare || form = .counted
  | _ => form = .bare

end Form

theorem Value.toList_explain (kind : FieldKind) (v : Value) :
    v.explain.toList = (v.form kind).mark ++ v.word := by
  cases v with
  | text content => simp [explain, word, form, Form.mark]
  | pattern p => simp [explain, word, form, Form.mark, Pattern.text]
  | number x =>
    rw [form]
    split
    · rfl
    · rfl
  | _ => rfl

/-- What a comparison by a field and an operator says before a value of a form. -/
structure Heading where
  field : Field
  op : CompareOp
  form : Form
deriving DecidableEq

/-- What is said of a field before a value. -/
def Field.lead (field : Field) (op : CompareOp) (form : Form) : List Char :=
  match field.kind with
  | .flag =>
    "the card ".toList ++ (if (field = .is) == (op ≠ .ne) then "is".toList else "is not".toList)
      ++ " ".toList
  | .legality =>
    "it ".toList ++ (if op = .ne then "is not".toList else "is".toList) ++ " ".toList
      ++ field.statusInWords.toList ++ " in ".toList
  | kind =>
    if kind = .color && form = .counted then
      "the number of colors in the ".toList ++ field.label.toList ++ " ".toList
        ++ op.betweenNumbers.toList ++ " ".toList
    else "the ".toList ++ field.label.toList ++ " ".toList ++ form.verb kind op ++ " ".toList

namespace Heading

/-- A heading in words, with the mark that opens the word behind it. -/
def text : Heading → List Char
  | ⟨field, op, form⟩ => field.lead op form ++ form.mark

end Heading

theorem isPattern_eq (kind : FieldKind) (value : Value) :
    value.isPattern = decide (value.form kind = .slashed) := by
  cases value with
  | number x => cases kind <;> rfl
  | _ => rfl

theorem isNumber_eq (kind : FieldKind) (value : Value) :
    (kind = .color && value.isNumber) = (kind = .color && value.form kind = .counted : Bool) := by
  cases value <;> cases kind <;> rfl

theorem toList_verbOf (kind : FieldKind) (op : CompareOp) (value : Value) :
    (verbOf kind op value).toList = (value.form kind).verb kind op := by
  unfold verbOf Form.verb
  split
  · rfl
  · rfl
  · rfl
  · rfl
  · rw [isPattern_eq kind]
    simp only [decide_eq_true_eq, apply_ite String.toList]

/-- **A comparison is explained by its heading and the word for its value.** -/
theorem toList_explainComparison (field : Field) (op : CompareOp) (value : Value) :
    (explainComparison field op value).toList
      = (Heading.mk field op (value.form field.kind)).text ++ value.word := by
  rw [Heading.text, List.append_assoc, ← Value.toList_explain, explainComparison, Field.lead]
  generalize field.kind = kind
  cases kind with
  | flag | legality => simp only [String.toList_append, apply_ite String.toList]
  | _ =>
    dsimp only
    rw [isNumber_eq, ← toList_verbOf]
    split
    · simp only [String.toList_append]
    · simp only [String.toList_append]

/-! ## Headings that say the same -/

namespace Heading

/-- The operator that stands for all that are explained alike: `:` only where it differs from the
others. -/
def canonicalOp (kind : FieldKind) (form : Form) : CompareOp → CompareOp
  | .colon =>
    match kind, form with
    | .color, .counted => .eq
    | .color, _ => .ge
    | .text, .slashed | .list, .slashed => .eq
    | .text, _ | .list, _ => .colon
    | _, _ => .eq
  | op => op

/-- **The heading that stands for all that say the same.** -/
def canonical : Heading → Heading
  | ⟨.not, op, form⟩ => ⟨.is, if op = .ne then .eq else .ne, form⟩
  | ⟨field, op, form⟩ => ⟨field, canonicalOp field.kind form op, form⟩

theorem lead_canonicalOp (field : Field) (op : CompareOp) (form : Form) :
    field.lead (canonicalOp field.kind form op) form = field.lead op form := by
  cases op with
  | colon =>
    unfold Field.lead
    generalize field.kind = kind
    cases kind <;> cases form <;> rfl
  | _ => rfl

theorem text_canonical (h : Heading) : h.canonical.text = h.text := by
  obtain ⟨field, op, form⟩ := h
  cases field with
  | not => cases op <;> rfl
  | _ => exact congrArg (· ++ form.mark) (lead_canonicalOp _ op form)

/-! ## The order of headings -/

/-- The headings of a field of free texts or lists. -/
def textual : List (CompareOp × Form) :=
  [(.ne, .slashed), (.colon, .quoted), (.eq, .quoted), (.ne, .quoted), (.eq, .slashed)]

/-- The headings of a field with a range of texts. -/
def ranged : List (CompareOp × Form) :=
  [(.ne, .slashed), (.eq, .quoted), (.ne, .quoted), (.eq, .slashed)]

/-- The headings of a field whose values are ordered. -/
def ordered (form : Form) : List (CompareOp × Form) :=
  [(.lt, form), (.eq, form), (.gt, form), (.ne, form), (.le, form), (.ge, form)]

/-- The headings of a field of colors. -/
def colored : List (CompareOp × Form) :=
  [(.ge, .bare), (.lt, .bare), (.gt, .bare), (.eq, .bare), (.ne, .bare), (.le, .bare)]

/-- The headings by their fields, in the order of their texts. -/
def blocks : List (Field × List (CompareOp × Form)) :=
  [(.banned, [(.eq, .bare)]), (.format, [(.eq, .bare)]), (.banned, [(.ne, .bare)]),
    (.format, [(.ne, .bare)]), (.restricted, [(.ne, .bare), (.eq, .bare)]), (.artist, textual),
    (.is, [(.eq, .bare)]), (.number, ranged), (.identity, colored), (.color, colored),
    (.defense, ordered .bare), (.game, textual), (.keyword, textual), (.lang, ranged),
    (.layout, ranged), (.loyalty, ordered .bare), (.mana, textual), (.manaValue, ordered .bare),
    (.name, textual), (.color, [(.lt, .counted), (.eq, .counted), (.gt, .counted)]),
    (.identity, ordered .counted), (.color, [(.ne, .counted), (.le, .counted), (.ge, .counted)]),
    (.produces, ordered .counted), (.oracle, textual), (.power, ordered .bare),
    (.produces, colored), (.rarity, ordered .bare), (.date, ordered .bare), (.year, ordered .bare),
    (.set, ranged), (.toughness, ordered .bare), (.type, textual)]

/-- **The canonical headings** but the one that says what a card is not, in the order of their
texts. -/
def all : List Heading := blocks.flatMap fun b => b.2.map fun k => ⟨b.1, k.1, k.2⟩

/-- The heading that says what a card is not, which begins like the one that says what it is. -/
def isNot : Heading := ⟨.is, .ne, .bare⟩

/-- Whether two texts differ at a character that both have, with the smaller one in the first. -/
def diverges : List Char → List Char → Bool
  | c :: s, d :: t => c < d || c = d && diverges s t
  | _, _ => false

theorem diverges_trans {s t u : List Char} (hst : diverges s t = true)
    (htu : diverges t u = true) : diverges s u = true := by
  induction s generalizing t u with
  | nil => cases hst
  | cons c s ih =>
    rcases t with _ | ⟨d, t⟩
    · cases hst
    rcases u with _ | ⟨e, u⟩
    · cases htu
    simp only [diverges, Bool.or_eq_true, Bool.and_eq_true, decide_eq_true_eq] at hst htu ⊢
    rcases hst with hcd | ⟨rfl, hst⟩
    · rcases htu with hde | ⟨rfl, -⟩
      · exact .inl (Char.lt_trans hcd hde)
      · exact .inl hcd
    · rcases htu with hce | ⟨rfl, htu⟩
      · exact .inl hce
      · exact .inr ⟨rfl, ih hst htu⟩

/-- Texts that diverge have no common continuation. -/
theorem append_ne_of_diverges {s t : List Char} (h : diverges s t = true) (x y : List Char) :
    s ++ x ≠ t ++ y := by
  induction s generalizing t with
  | nil => cases h
  | cons c s ih =>
    rcases t with _ | ⟨d, t⟩
    · cases h
    intro he
    obtain ⟨rfl, hrest⟩ := List.cons.inj he
    simp only [diverges, Char.lt_irrefl, decide_false, Bool.false_or, Bool.and_eq_true] at h
    exact ih h.2 hrest

/-- Whether the one heading stands in the table before the other. -/
def Before (a b : Heading) : Prop := diverges a.text b.text = true

instance : Trans Before Before Before := ⟨diverges_trans⟩

instance : Std.Symm fun a b => Before a b ∨ Before b a := ⟨fun _ _ => Or.symm⟩

theorem isChain_all : all.IsChain Before := by
  unfold Before
  decide +kernel

/-- **No heading of the table begins another one.** -/
theorem eq_of_append {a b : Heading} (ha : a ∈ all) (hb : b ∈ all) {s t : List Char}
    (h : a.text ++ s = b.text ++ t) : a = b := by
  have hpairs : all.Pairwise fun a b => Before a b ∨ Before b a :=
    (List.isChain_iff_pairwise.mp isChain_all).imp Or.inl
  refine Classical.byContradiction fun hne => ?_
  rcases hpairs.forall ha hb hne with hab | hba
  · exact append_ne_of_diverges hab s t h
  · exact append_ne_of_diverges hba t s h.symm

/-! ## The headings of typed comparisons -/

theorem form_canonical (h : Heading) : h.canonical.form = h.form := by
  obtain ⟨field, op, form⟩ := h
  cases field <;> rfl

/-- Every heading that a field can have is in the table, up to its meaning. -/
theorem blocks_complete : ∀ field ∈ Field.all, ∀ op ∈ field.operators,
    ∀ form ∈ [Form.quoted, .slashed, .counted, .bare], form.suits field.kind = true →
      (Heading.mk field op form).canonical = isNot ∨
        ∃ b ∈ blocks, b.1 = (Heading.mk field op form).canonical.field ∧
          ((Heading.mk field op form).canonical.op, form) ∈ b.2 := by decide +kernel

/-- **A comparison of a field has a heading of the table**, or it says what a card is not. -/
theorem canonical_mem {field : Field} {op : CompareOp} {form : Form} (hop : op ∈ field.operators)
    (hform : form.suits field.kind = true) :
    (Heading.mk field op form).canonical ∈ all ∨ (Heading.mk field op form).canonical = isNot := by
  have hfield : field ∈ Field.all := by cases field <;> decide
  have hforms : form ∈ [Form.quoted, .slashed, .counted, .bare] := by cases form <;> decide
  rcases blocks_complete field hfield op hop form hforms hform with h | ⟨b, hb, hbf, hbo⟩
  · exact .inr h
  · refine .inl (List.mem_flatMap.mpr ⟨b, hb, List.mem_map.mpr ⟨_, hbo, ?_⟩⟩)
    rw [hbf]
    have hf := form_canonical ⟨field, op, form⟩
    cases hc : (Heading.mk field op form).canonical with
    | mk f o k => rw [hc] at hf; cases hf; rfl

theorem kind_of_canonical {h : Heading} (hfield : h.canonical.field = .is) :
    h.field.kind = .flag := by
  obtain ⟨field, op, form⟩ := h
  cases field with
  | is | not => rfl
  | _ => cases hfield

/-- The heading that says what a card is. -/
def isHeading : Heading := ⟨.is, .eq, .bare⟩

theorem text_isNot : isNot.text = isHeading.text ++ "not ".toList := by decide

end Heading

end CardQuery
