import CardQuery.Proofs.Text.LowerCase
import CardQuery.Text.UpperCase

/-!
# Proofs/Text/UpperCase — what a character is raised or lowered from

The tables of case are read backwards: from a character to the code points that it may come from.

* `mem_upperSources` — a character is in the upper-case form only of its `upperSources`.
* `mem_mapSources_of_mem_lowerAt` — and in the lower-case form only of its `mapSources`, unless it
  is one of the few that are not lowered to by the table.
-/

namespace CardQuery.Text

/-! ## Tables read backwards -/

theorem CaseRun.source?_apply {r : CaseRun} {n : Nat} (h : r.covers n = true) :
    r.source? (r.apply n) = some n := by
  obtain ⟨hfirst, -, -⟩ := covers_iff.mp h
  have hback : r.first + (r.apply n - r.image) = n := by
    rw [apply]
    omega
  have himage : r.image ≤ r.apply n := Nat.le_add_right _ _
  simp only [source?, hback, himage, h, decide_true, Bool.true_and, if_true]

/-- The code points that the runs of a table may map to `d`, with `d` itself. -/
def mapSources (rs : List CaseRun) (d : Nat) : List Nat := d :: rs.filterMap (·.source? d)

theorem mem_mapSources (rs : List CaseRun) (n : Nat) : n ∈ mapSources rs (mapCase rs n) := by
  rcases mapCase_eq_or rs n with h | ⟨r, hr, hcovers, h⟩
  · rw [h]
    exact List.mem_cons_self
  · rw [h]
    exact List.mem_cons_of_mem _
      (List.mem_filterMap.mpr ⟨r, hr, CaseRun.source?_apply hcovers⟩)

/-- The code points whose upper-case form may hold `d`. -/
def upperSources (d : Nat) : List Nat :=
  mapSources upperRuns d ++ (upperSequences.filter fun row => row.2.contains d).map (·.1)

theorem mem_of_sequenceIn {rows : List (Nat × List Nat)} {n : Nat} {cs : List Nat}
    (h : sequenceIn rows n = some cs) : (n, cs) ∈ rows := by
  induction rows with
  | nil => cases h
  | cons row rows ih =>
    obtain ⟨d, ds⟩ := row
    rw [sequenceIn] at h
    split at h
    · cases h
    split at h
    · rename_i hd
      obtain rfl : ds = cs := Option.some.inj h
      rw [eq_of_beq hd]
      exact List.mem_cons_self
    · exact List.mem_cons_of_mem _ (ih h)

/-- The code point of a character, which only the character zero shares with what is none. -/
theorem eq_toNat_of_ofNat {n : Nat} {d : Char} (h : Char.ofNat n = d) (hd : d ≠ '\x00') :
    n = d.toNat := by
  by_cases hvalid : n.isValidChar
  · rw [Char.ofNat, dif_pos hvalid] at h
    rw [← h]
    rfl
  · rw [Char.ofNat, dif_neg hvalid] at h
    exact absurd h.symm hd

/-- **What raising gives a character from.** -/
theorem mem_upperSources {c d : Char} (h : d ∈ upperChar c) (hd : d ≠ '\x00') :
    c.toNat ∈ upperSources d.toNat := by
  rw [upperChar] at h
  split at h
  · rename_i cs hcs
    obtain ⟨n, hn, hchar⟩ := List.mem_map.mp h
    rw [eq_toNat_of_ofNat hchar hd] at hn
    exact List.mem_append_right _ (List.mem_map.mpr ⟨(c.toNat, cs),
      List.mem_filter.mpr ⟨mem_of_sequenceIn hcs, List.contains_iff_mem.mpr hn⟩, rfl⟩)
  · rw [← eq_toNat_of_ofNat (List.mem_singleton.mp h).symm hd]
    exact List.mem_append_left _ (mem_mapSources upperRuns c.toNat)

/-- **What lowering gives a character from**, if it is no small sigma and no part of a dotted
`i`. -/
theorem mem_mapSources_of_mem_lowerAt {before after : List Char} {c d : Char}
    (h : d ∈ lowerAt before c after) (hd : d ∉ ['ς', 'σ', 'i', '\u0307', '\x00']) :
    c.toNat ∈ mapSources lowerRuns d.toNat := by
  simp only [List.mem_cons, List.not_mem_nil, or_false, not_or] at hd
  rw [lowerAt] at h
  split at h
  · rw [List.mem_singleton] at h
    split at h
    · exact absurd h hd.1
    · exact absurd h hd.2.1
  split at h
  · simp only [List.mem_cons, List.not_mem_nil, or_false] at h
    rcases h with h | h
    · exact absurd h hd.2.2.1
    · exact absurd h hd.2.2.2.1
  · rename_i hi
    rw [List.mem_singleton, lowerCode, if_neg hi] at h
    rw [← eq_toNat_of_ofNat h.symm hd.2.2.2.2]
    exact mem_mapSources lowerRuns c.toNat

/-! ## Texts -/

theorem exists_of_mem_lowerFrom {before s : List Char} {d : Char} (h : d ∈ lowerFrom before s) :
    ∃ c ∈ s, ∃ behind ahead, d ∈ lowerAt behind c ahead := by
  induction s generalizing before with
  | nil => cases h
  | cons c s ih =>
    rw [lowerFrom, List.mem_append] at h
    rcases h with h | h
    · exact ⟨c, List.mem_cons_self, before, s, h⟩
    · obtain ⟨c', hc', hd⟩ := ih h
      exact ⟨c', List.mem_cons_of_mem c hc', hd⟩

/-- A text in lower case holds what a character of the text lowers to wherever it stands. -/
theorem mem_lowerFrom {before s : List Char} {c d : Char} (hc : c ∈ s)
    (h : ∀ behind ahead, d ∈ lowerAt behind c ahead) : d ∈ lowerFrom before s := by
  induction s generalizing before with
  | nil => cases hc
  | cons c' s ih =>
    rw [lowerFrom, List.mem_append]
    rcases List.mem_cons.mp hc with rfl | hc
    · exact .inl (h before s)
    · exact .inr (ih hc)

end CardQuery.Text
