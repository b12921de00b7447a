import CardQuery.Proofs.Explanation.Leaf
import CardQuery.Proofs.Searching.Texts
import CardQuery.Proofs.Typing.Card

/-!
# Proofs/Explanation/Meaning — comparisons that are explained alike hold alike

A comparison means what the comparison with its canonical field and operator means
(`Comparison.holds_heading`): where `:` is explained like another operator, it is decided like it.

* `Comparison.holds_eq_of_text_eq` — comparisons without numbers that have one explanation hold for
  the same cards.
-/

namespace CardQuery

/-! ## Values that are written alike -/

/-- The letters of a set can be read off its symbols. -/
theorem ColorSet.ofLetters_symbols (s : ColorSet) : ofLetters s.symbols.toList = s := by
  obtain ⟨w, u, b, r, g⟩ := s
  cases w <;> cases u <;> cases b <;> cases r <;> cases g <;> decide

/-- The flags of a pattern begin behind its last slash. -/
theorem Pattern.eq_of_word {p q : Pattern}
    (h : p.source.toList ++ '/' :: p.flags.toList = q.source.toList ++ '/' :: q.flags.toList) :
    p = q := by
  have hflags (p : Pattern) : ∀ c ∈ p.flags.toList.reverse, (c != '/') = true := by
    intro c hc
    have hletters : Regex.flagLetters.all (· != '/') = true := by decide
    exact List.all_eq_true.mp hletters c (mem_flagLetters (List.mem_reverse.mp hc))
  have hslash (s : List Char) : ∀ c ∈ ('/' :: s).head?, (c != '/') = false := by
    intro c hc
    obtain rfl : '/' = c := Option.some.inj hc
    rfl
  have hreverse := congrArg List.reverse h
  simp only [List.reverse_append, List.reverse_cons, List.append_assoc, List.singleton_append]
    at hreverse
  obtain ⟨hf, hs⟩ := append_inj_of_stop (hflags p) (hflags q) (hslash _) (hslash _) hreverse
  exact Pattern.ext (String.toList_injective (List.reverse_injective (List.cons.inj hs).2))
    (String.toList_injective (List.reverse_injective hf))

/-- **Two values of one form that are written by the same word are the same**, unless they are
numbers. -/
theorem Value.eq_of_word {f g : Field} {op op' : CompareOp} {v w : Value} (hv : v.Fits f op)
    (hw : w.Fits g op') (hkind : f.kind = g.kind) (hform : v.form f.kind = w.form g.kind)
    (hnv : v.isNumber = false) (hnw : w.isNumber = false) (h : v.word = w.word) : v = w := by
  rw [hkind] at hform
  rw [Value.Fits, hkind] at hv
  rw [Value.Fits] at hw
  cases hk : g.kind <;> rw [hk] at hv hw <;> dsimp only at hv hw
  case text | discrete | list =>
    rcases hv with ⟨s, rfl⟩ | ⟨p, rfl⟩
    · rcases hw with ⟨t, rfl⟩ | ⟨q, rfl⟩
      · have hst : s = t := String.toList_injective (List.append_cancel_right h)
        rw [hst]
      · cases hform
    · rcases hw with ⟨t, rfl⟩ | ⟨q, rfl⟩
      · cases hform
      · rw [Pattern.eq_of_word h]
  case color =>
    rcases hv with ⟨x, rfl⟩ | ⟨set, rfl⟩
    · cases hnv
    rcases hw with ⟨x, rfl⟩ | ⟨set', rfl⟩
    · cases hnw
    have hsymbols : set.symbols.toList = set'.symbols.toList := h
    rw [← ColorSet.ofLetters_symbols set, hsymbols, ColorSet.ofLetters_symbols]
  case numeric =>
    rcases hv with ⟨x, rfl⟩ | ⟨rfl, -⟩
    · cases hnv
    rcases hw with ⟨x, rfl⟩ | ⟨rfl, -⟩
    · cases hnw
    rfl
  case rarity =>
    obtain ⟨r, rfl⟩ := hv
    obtain ⟨r', rfl⟩ := hw
    exact congrArg keyword (String.toList_injective h)
  case date =>
    obtain ⟨a, -, rfl, -⟩ := hv
    obtain ⟨b, -, rfl, -⟩ := hw
    exact congrArg keyword (String.toList_injective h)
  case legality | flag =>
    obtain ⟨a, rfl, -⟩ := hv
    obtain ⟨b, rfl, -⟩ := hw
    exact congrArg keyword (String.toList_injective h)

/-! ## Operators that decide alike -/

section Alike

theorem matchText_colon_pattern (p : Pattern) :
    matchText .colon (.pattern p) = matchText .eq (.pattern p) := by
  funext content
  cases content <;> rfl

theorem matchDiscrete_colon (value : Value) :
    matchDiscrete .colon value = matchDiscrete .eq value := by
  funext content
  cases value <;> cases content <;> rfl

theorem matchNumeric_colon (value : Value) :
    matchNumeric .colon value = matchNumeric .eq value := by
  funext content
  cases content <;> rfl

theorem matchStar_colon : matchStar .colon = matchStar .eq := by
  funext content
  cases content <;> rfl

end Alike

namespace Card

variable (card : Card) {field : Field}

/-- Free texts: patterns are searched for under both operators. -/
theorem holds_colon_text (hk : field.kind = .text) (p : Pattern) :
    card.holds field .colon (.pattern p) = card.holds field .eq (.pattern p) := by
  have h := matchText_colon_pattern p
  cases field with
  | name => exact congrArg card.anyName h
  | oracle => exact congrArg (anyFace card.oracleText card.faceOracleTexts) h
  | type | mana | artist => exact congrFun h _
  | _ => cases hk

theorem holds_colon_list (hk : field.kind = .list) (p : Pattern) :
    card.holds field .colon (.pattern p) = card.holds field .eq (.pattern p) := by
  cases field with
  | keyword | game => rfl
  | _ => cases hk

theorem holds_colon_discrete (hk : field.kind = .discrete) (value : Value) :
    card.holds field .colon value = card.holds field .eq value := by
  have h := matchDiscrete_colon value
  cases field with
  | set | number | layout | lang => exact congrFun h _
  | _ => cases hk

theorem holds_colon_count (hk : field.kind = .color) (x : Double) :
    card.holds field .colon (.number x) = card.holds field .eq (.number x) := by
  cases field with
  | color | identity | produces => rfl
  | _ => cases hk

theorem holds_colon_colors (hk : field.kind = .color) (set : ColorSet) :
    card.holds field .colon (.colors set) = card.holds field .ge (.colors set) := by
  cases field with
  | color | identity | produces => rfl
  | _ => cases hk

theorem holds_colon_numeric (hk : field.kind = .numeric) (value : Value) :
    card.holds field .colon value = card.holds field .eq value := by
  have h := matchNumeric_colon value
  have hstar := matchStar_colon
  cases field with
  | manaValue | year => exact congrFun h _
  | power | toughness | loyalty | defense =>
    cases value with
    | keyword => exact congrFun hstar _
    | _ => exact congrFun h _
  | _ => cases hk

/-- The other kinds look at an operator only for what it says of an outcome. -/
theorem holds_colon_keyword (hk : field.kind = .date ∨ field.kind = .rarity
    ∨ field.kind = .legality ∨ field.kind = .flag) (word : String) :
    card.holds field .colon (.keyword word) = card.holds field .eq (.keyword word) := by
  cases field with
  | date | rarity | format | banned | restricted | is | not => rfl
  | _ => simp [Field.kind, Field.info] at hk

/-- **Where `:` is explained like another operator, it is decided like it.** -/
theorem holds_canonicalOp {op : CompareOp} {value : Value} (h : value.Fits field op) :
    card.holds field (Heading.canonicalOp field.kind (value.form field.kind) op) value
      = card.holds field op value := by
  cases op with
  | colon =>
    cases hk : field.kind <;> rw [Value.Fits, hk] at h <;> dsimp only at h
    case text =>
      rcases h with ⟨s, rfl⟩ | ⟨p, rfl⟩
      · rfl
      · exact (card.holds_colon_text hk p).symm
    case discrete =>
      rcases h with ⟨s, rfl⟩ | ⟨p, rfl⟩
      · exact (card.holds_colon_discrete hk _).symm
      · exact (card.holds_colon_discrete hk _).symm
    case list =>
      rcases h with ⟨s, rfl⟩ | ⟨p, rfl⟩
      · rfl
      · exact (card.holds_colon_list hk p).symm
    case color =>
      rcases h with ⟨x, rfl⟩ | ⟨set, rfl⟩
      · exact (card.holds_colon_count hk x).symm
      · exact (card.holds_colon_colors hk set).symm
    case numeric =>
      rcases h with ⟨x, rfl⟩ | ⟨rfl, -⟩
      · exact (card.holds_colon_numeric hk _).symm
      · exact (card.holds_colon_numeric hk _).symm
    case date =>
      obtain ⟨w, -, rfl, -⟩ := h
      exact (card.holds_colon_keyword (by simp [hk]) w).symm
    case rarity =>
      obtain ⟨r, rfl⟩ := h
      exact (card.holds_colon_keyword (by simp [hk]) r.name).symm
    case legality | flag =>
      obtain ⟨w, rfl, -⟩ := h
      exact (card.holds_colon_keyword (by simp [hk]) w).symm
  | _ => rfl

/-- The properties that a card lacks are those that it does not have. -/
theorem holds_not (op : CompareOp) (value : Value) :
    card.holds .is (if op = .ne then .eq else .ne) value = card.holds .not op value := by
  change matchFlag .is (if op = .ne then .eq else .ne) value card = matchFlag .not op value card
  unfold matchFlag
  split
  · rename_i name _
    rcases card.hasFlag name with _ | b
    · rfl
    · cases op <;> cases b <;> rfl
  · rfl

end Card

/-! ## Bare terms -/

section Terms

variable {card : Card}

/-- **A bare text is looked for in the names of a card**, as it is under the field of names. -/
theorem Query.matches_term (s : String) (h : card.WellFormed) :
    (term (.string s)).matches card = card.holds .name .colon (.text (.string s)) := by
  rw [matches_term_eq h.name h.faceNames,
    Card.holds_name_eq h.name h.faceNames (.inl ⟨s, rfl⟩) (.inl rfl)]

/-- **A bare pattern is searched for in the names of a card**, as it is under the field of names. -/
theorem Query.matches_pattern (p : Pattern) (h : card.WellFormed) :
    (pattern p).matches card = card.holds .name .colon (.pattern p) := by
  rw [matches_pattern_eq h.name h.faceNames,
    Card.holds_name_eq h.name h.faceNames (.inr ⟨p, rfl⟩) (.inl rfl)]

end Terms

namespace Comparison

variable {a b c : Comparison} (card : Card)

theorem kind_heading (c : Comparison) : c.heading.field.kind = c.field.kind := by
  obtain ⟨field, op, value⟩ := c
  cases field <;> rfl

theorem form_heading (c : Comparison) : c.heading.form = c.value.form c.field.kind :=
  Heading.form_canonical _

/-- **A comparison holds as the one with its canonical heading.** -/
theorem holds_heading (h : c.value.Fits c.field c.op) :
    card.holds c.heading.field c.heading.op c.value = card.holds c.field c.op c.value := by
  obtain ⟨field, op, value⟩ := c
  cases field with
  | not => exact card.holds_not op value
  | _ => exact card.holds_canonicalOp h

/-- **Comparisons that are explained alike hold alike**, unless they compare with numbers, of which
several are written alike. -/
theorem holds_eq_of_text_eq (ha : a.IsLegible) (hb : b.IsLegible) (hna : a.value.isNumber = false)
    (hnb : b.value.isNumber = false) (h : a.text = b.text) :
    card.holds a.field a.op a.value = card.holds b.field b.op b.value := by
  obtain ⟨hheading, hword, -⟩ := eq_of_append ha hb stops_nil stops_nil
    (congrArg (· ++ []) h)
  have hkind : a.field.kind = b.field.kind := by
    rw [← kind_heading, ← kind_heading, hheading]
  have hform : a.value.form a.field.kind = b.value.form b.field.kind := by
    rw [← form_heading, ← form_heading, hheading]
  have hvalue : a.value = b.value :=
    Value.eq_of_word ha.typed hb.typed hkind hform hna hnb hword
  rw [← holds_heading card ha.typed, ← holds_heading card hb.typed, hheading, hvalue]

end Comparison

end CardQuery
