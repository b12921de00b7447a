import CardQuery.Text.LowerCase

/-!
# Proofs/Text/LowerCase — what is in lower case stays as it is

`lower_lower` — lowering a text twice is lowering it once.

Every character that lowering produces is `Settled`: it lowers to itself wherever it stands.  For
the case table this is one look at every two runs (`lowerRuns_apart`): either the images of the one
lie on one side of the other, or the one leaves out every second code point and these are the
images.
-/

namespace CardQuery.Text

/-- A character that lowers to itself, wherever it stands. -/
def Settled (c : Char) : Prop := ∀ before after, lowerAt before c after = [c]

/-! ## The case table -/

namespace CaseRun

/-- Whether no image of `r` is mapped on by `s`, seen from the ends of the runs. -/
def apart (r s : CaseRun) : Bool :=
  Nat.blt s.last r.image || Nat.blt (r.apply r.last) s.first
    || (Nat.beq r.step 2 || Nat.beq r.first r.last) && Nat.beq s.step 2
      && Nat.beq ((r.image + s.first) % 2) 1

/-- Whether the images of a run are characters, with the dotted capital I on one side of them. -/
def fair (r : CaseRun) : Bool :=
  (Nat.blt (r.apply r.last) 0x130 || Nat.blt 0x130 r.image)
    && (Nat.blt (r.apply r.last) 0xD800
      || Nat.blt 0xDFFF r.image && Nat.blt (r.apply r.last) 0x110000)

theorem covers_iff {r : CaseRun} {c : Nat} :
    r.covers c = true ↔ r.first ≤ c ∧ c ≤ r.last ∧ (c - r.first) % r.step = 0 := by
  simp only [covers, Bool.and_eq_true, decide_eq_true_eq, beq_iff_eq, and_assoc]

theorem covers_apply {r s : CaseRun} (h : r.apart s = true) {c : Nat} (hc : r.covers c = true) :
    s.covers (r.apply c) = false := by
  rw [← Bool.not_eq_true]
  intro hs
  obtain ⟨hfirst, hlast, hstep⟩ := covers_iff.mp hc
  obtain ⟨hfirst', hlast', hstep'⟩ := covers_iff.mp hs
  simp only [apart, Bool.or_eq_true, Bool.and_eq_true, Nat.blt_eq, Nat.beq_eq] at h
  rw [apply] at h hfirst' hlast' hstep'
  rcases h with (h | h) | ⟨⟨hr, hs⟩, hodd⟩
  · omega
  · omega
  · rw [hs] at hstep'
    rcases hr with hr | hr
    · rw [hr] at hstep
      omega
    · omega

theorem apply_ne_dotted {r : CaseRun} (h : r.fair = true) {c : Nat} (hc : r.covers c = true) :
    r.apply c ≠ 0x130 ∧ (r.apply c).isValidChar := by
  obtain ⟨hfirst, hlast, -⟩ := covers_iff.mp hc
  simp only [fair, apply, Bool.or_eq_true, Bool.and_eq_true, Nat.blt_eq] at h
  simp only [apply, Nat.isValidChar]
  omega

end CaseRun

/-- **No run goes on from where another one ends.** -/
theorem lowerRuns_apart : (lowerRuns.all fun r => lowerRuns.all r.apart) = true := by
  decide +kernel

theorem lowerRuns_fair : lowerRuns.all CaseRun.fair = true := by
  decide +kernel

theorem mapCase_eq_self {rs : List CaseRun} {n : Nat} (h : ∀ r ∈ rs, r.covers n = false) :
    mapCase rs n = n := by
  induction rs with
  | nil => rfl
  | cons r rs ih =>
    rw [mapCase, h r List.mem_cons_self, if_neg Bool.false_ne_true]
    rw [ih fun s hs => h s (List.mem_cons_of_mem r hs), ite_self]

/-- A code point is its own image unless a run maps it. -/
theorem mapCase_eq_or (rs : List CaseRun) (n : Nat) :
    mapCase rs n = n ∨ ∃ r ∈ rs, r.covers n = true ∧ mapCase rs n = r.apply n := by
  induction rs with
  | nil => exact .inl rfl
  | cons r rs ih =>
    rw [mapCase]
    split
    · exact .inl rfl
    split
    · rename_i h
      exact .inr ⟨r, List.mem_cons_self, h, rfl⟩
    · refine ih.imp_right ?_
      rintro ⟨s, hs, hcovers, heq⟩
      exact ⟨s, List.mem_cons_of_mem r hs, hcovers, heq⟩

/-! ## Settled characters -/

theorem settled_of_mapCase {c : Char} (hs : c.toNat ≠ 0x3A3) (hi : c.toNat ≠ 0x130)
    (h : mapCase lowerRuns c.toNat = c.toNat) : Settled c := by
  intro before after
  have hs' : (c.toNat == 0x3A3) = false := beq_false_of_ne hs
  have hi' : (c.toNat == 0x130) = false := beq_false_of_ne hi
  simp only [lowerAt, hs', hi', lowerCode, h, Bool.false_eq_true, if_false, Char.ofNat_toNat]

/-- The image of a run is settled: no run maps it on, and one maps the capital sigma. -/
theorem settled_apply {r : CaseRun} (hr : r ∈ lowerRuns) {n : Nat} (hn : r.covers n = true) :
    Settled (Char.ofNat (r.apply n)) := by
  obtain ⟨hdotted, hvalid⟩ := CaseRun.apply_ne_dotted (List.all_eq_true.mp lowerRuns_fair r hr) hn
  have hcode : (Char.ofNat (r.apply n)).toNat = r.apply n := by
    rw [Char.ofNat, dif_pos hvalid]
    rfl
  have huncovered : ∀ s ∈ lowerRuns, s.covers (r.apply n) = false := fun s hs =>
    CaseRun.covers_apply (List.all_eq_true.mp (List.all_eq_true.mp lowerRuns_apart r hr) s hs) hn
  have hsigma : ⟨0x3A3, 0x3AB, 1, 0x3C3⟩ ∈ lowerRuns := by decide
  refine settled_of_mapCase ?_ ?_ ?_
  · rw [hcode]
    intro h
    have hcovers := huncovered _ hsigma
    rw [h] at hcovers
    cases hcovers
  · rwa [hcode]
  · rw [hcode]
    exact mapCase_eq_self huncovered

/-- **Lowering a character gives settled ones.** -/
theorem settled_of_mem_lowerAt {before after : List Char} {c d : Char}
    (h : d ∈ lowerAt before c after) : Settled d := by
  rw [lowerAt] at h
  split at h
  · rw [List.mem_singleton] at h
    split at h <;> rw [h] <;> exact settled_of_mapCase (by decide) (by decide) (by decide)
  rename_i hs
  split at h
  · simp only [List.mem_cons, List.not_mem_nil, or_false] at h
    rcases h with rfl | rfl <;> exact settled_of_mapCase (by decide) (by decide) (by decide)
  rename_i hi
  rw [List.mem_singleton.mp h, lowerCode, if_neg hi]
  rcases mapCase_eq_or lowerRuns c.toNat with hself | ⟨r, hr, hcovers, himage⟩
  · rw [hself, Char.ofNat_toNat]
    exact settled_of_mapCase (by simpa using hs) (by simpa using hi) hself
  · rw [himage]
    exact settled_apply hr hcovers

/-! ## Texts -/

theorem settled_of_mem_lowerFrom {before s : List Char} {d : Char} (h : d ∈ lowerFrom before s) :
    Settled d := by
  induction s generalizing before with
  | nil => cases h
  | cons c s ih =>
    rw [lowerFrom, List.mem_append] at h
    exact h.elim settled_of_mem_lowerAt ih

theorem lowerFrom_eq_self {before s : List Char} (h : ∀ c ∈ s, Settled c) :
    lowerFrom before s = s := by
  induction s generalizing before with
  | nil => rfl
  | cons c s ih =>
    rw [lowerFrom, h c List.mem_cons_self, ih fun d hd => h d (List.mem_cons_of_mem c hd)]
    rfl

/-- An ASCII character is lowered by itself, wherever it stands. -/
theorem lowerAt_ascii {c : Char} (h : c.toNat < 0x80) (before after : List Char) :
    lowerAt before c after = [Char.ofNat (lowerCode c.toNat)] := by
  have hsigma : (c.toNat == 0x3A3) = false := beq_false_of_ne (by omega)
  have hdotted : (c.toNat == 0x130) = false := beq_false_of_ne (by omega)
  simp only [lowerAt, hsigma, hdotted, Bool.false_eq_true, if_false]

/-- The characters before the capital letters are settled. -/
theorem settled_of_lt {c : Char} (h : c.toNat < 0x41) : Settled c := by
  have hbefore : (lowerRuns.all fun r => Nat.ble 0x41 r.first) = true := by decide +kernel
  refine settled_of_mapCase (by omega) (by omega) (mapCase_eq_self fun r hr => ?_)
  rw [← Bool.not_eq_true, CaseRun.covers_iff]
  have hfirst := Nat.ble_eq.mp (List.all_eq_true.mp hbefore r hr)
  omega

/-- A text of settled characters is in lower case. -/
theorem lower_eq_self {s : String} (h : ∀ c ∈ s.toList, Settled c) : lower s = s := by
  rw [lower, lowerChars, lowerFrom_eq_self h, String.ofList_toList]

/-- **Lowering a text twice is lowering it once.** -/
@[simp] theorem lower_lower (s : String) : lower (lower s) = lower s := by
  rw [lower, toList_lower]
  exact congrArg String.ofList (lowerFrom_eq_self fun _ => settled_of_mem_lowerFrom)

end CardQuery.Text
