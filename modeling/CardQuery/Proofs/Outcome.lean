import CardQuery.Fault

/-!
# Proofs/Outcome — what a computation that can fail comes to

`EndsIn x fails P` gives the outcome of a computation in full: a fault exactly under the condition
`fails`, and otherwise a value with the property `P`.

* `EndsIn.bind` — two steps fail if the one or the other does.
* `mapM_endsIn` — a computation over a list fails if that of some item does.

Where one of two steps cannot fail, `EndsIn.andThen` and `EndsIn.beforeAll` leave the condition of
the other as it is.
-/

namespace CardQuery

/-! ## One computation -/

section Outcomes

variable {α β : Type} {x : Except Fault α} {f : α → Except Fault β} {fails more : Prop}
  {P : α → Prop} {Q : β → Prop}

/-- **A computation that ends in a fault under a condition**, and otherwise in a value with a
property. -/
def EndsIn (x : Except Fault α) (fails : Prop) (P : α → Prop) : Prop :=
  (fails → ∃ e, x = .error e) ∧ (¬ fails → ∃ a, x = .ok a ∧ P a)

theorem ok_bind (a : α) : (Except.ok a >>= f) = f a := rfl

theorem endsIn_ok {a : α} (h : P a) : EndsIn (.ok a) False P := ⟨nofun, fun _ => ⟨a, rfl, h⟩⟩

theorem EndsIn.bind (hx : EndsIn x fails P) (hf : ∀ a, P a → EndsIn (f a) more Q) :
    EndsIn (x >>= f) (fails ∨ more) Q := by
  by_cases h : fails
  · obtain ⟨e, rfl⟩ := hx.1 h
    exact ⟨fun _ => ⟨e, rfl⟩, fun hn => absurd (.inl h) hn⟩
  · obtain ⟨a, rfl, ha⟩ := hx.2 h
    exact ⟨fun hm => (hf a ha).1 (hm.resolve_left h), fun hn => (hf a ha).2 fun hm => hn (.inr hm)⟩

theorem EndsIn.congr {fails' : Prop} (hx : EndsIn x fails P) (h : fails ↔ fails') :
    EndsIn x fails' P := by rwa [← propext h]

theorem EndsIn.imp {P' : α → Prop} (hx : EndsIn x fails P) (h : ∀ a, P a → P' a) :
    EndsIn x fails P' := by
  refine ⟨hx.1, fun hn => ?_⟩
  obtain ⟨a, ha, hp⟩ := hx.2 hn
  exact ⟨a, ha, h a hp⟩

theorem EndsIn.map {g : α → β} (hx : EndsIn x fails P) (h : ∀ a, P a → Q (g a)) :
    EndsIn (x.map g) fails Q := by
  constructor
  · intro hf
    obtain ⟨e, rfl⟩ := hx.1 hf
    exact ⟨e, rfl⟩
  · intro hn
    obtain ⟨a, rfl, ha⟩ := hx.2 hn
    exact ⟨g a, rfl, h a ha⟩

/-- A value that a computation ends in has the property. -/
theorem EndsIn.of_eq_ok (hx : EndsIn x fails P) {a : α} (h : x = .ok a) : P a := by
  by_cases hf : fails
  · obtain ⟨e, he⟩ := hx.1 hf
    rw [h] at he
    cases he
  · obtain ⟨b, hb, hp⟩ := hx.2 hf
    rw [h] at hb
    cases hb
    exact hp

/-- After a computation that does not fail, what follows it tells whether there is a fault. -/
theorem EndsIn.andThen (hx : EndsIn x False P) (hf : ∀ a, P a → EndsIn (f a) more Q) :
    EndsIn (x >>= f) more Q :=
  (hx.bind hf).congr (by rw [false_or])

/-- A computation that is followed by one that does not fail tells whether there is a fault. -/
theorem EndsIn.beforeAll (hx : EndsIn x fails P) (hf : ∀ a, P a → EndsIn (f a) False Q) :
    EndsIn (x >>= f) fails Q :=
  (hx.bind hf).congr (by rw [or_false])

end Outcomes

/-! ## Computations over a list -/

section Lists

variable {α β : Type} {xs : List α}

theorem mapM_endsIn {f : α → Except Fault β} {fails : α → Prop} {P : β → Prop}
    (h : ∀ x ∈ xs, EndsIn (f x) (fails x) P) :
    EndsIn (xs.mapM f) (∃ x ∈ xs, fails x) fun ys => ∀ y ∈ ys, P y := by
  induction xs with
  | nil => exact (endsIn_ok nofun).congr (by simp)
  | cons x xs ih =>
    obtain ⟨hx, hxs⟩ := List.forall_mem_cons.mp h
    rw [List.mapM_cons]
    have hall := hx.bind fun y hy => (ih hxs).beforeAll fun ys hys =>
      endsIn_ok (P := fun zs => ∀ z ∈ zs, P z) (List.forall_mem_cons.mpr ⟨hy, hys⟩)
    exact hall.congr (by simp)

theorem filterMapM_endsIn {f : α → Except Fault (Option β)} {P : β → Prop}
    (h : ∀ x ∈ xs, EndsIn (f x) False fun o => ∀ y ∈ o, P y) :
    EndsIn (xs.filterMapM f) False fun ys => ∀ y ∈ ys, P y := by
  induction xs with
  | nil => exact endsIn_ok nofun
  | cons x xs ih =>
    obtain ⟨hx, hxs⟩ := List.forall_mem_cons.mp h
    rw [List.filterMapM_cons]
    refine hx.andThen fun o ho => ?_
    cases o with
    | none => exact ih hxs
    | some y =>
      exact (ih hxs).andThen fun ys hys => endsIn_ok (List.forall_mem_cons.mpr ⟨ho y rfl, hys⟩)

/-- A computation over a list that does not fail did not fail on any item. -/
theorem exists_ok_of_mapM {f : α → Except Fault β} {ys : List β} (h : xs.mapM f = .ok ys) :
    ∀ x ∈ xs, ∃ y, f x = .ok y := by
  induction xs generalizing ys with
  | nil => nofun
  | cons x xs ih =>
    rw [List.mapM_cons, bind_eq_ok_iff] at h
    obtain ⟨y, hy, h⟩ := h
    obtain ⟨ys, hys, -⟩ := bind_eq_ok_iff.mp h
    exact List.forall_mem_cons.mpr ⟨⟨y, hy⟩, ih hys⟩

theorem mapM_eq_map {f : α → Except Fault β} {g : α → β} (h : ∀ x ∈ xs, f x = .ok (g x)) :
    xs.mapM f = .ok (xs.map g) := by
  induction xs with
  | nil => rfl
  | cons x xs ih =>
    obtain ⟨hx, hxs⟩ := List.forall_mem_cons.mp h
    rw [List.mapM_cons, hx, ih hxs]
    rfl

theorem filterMapM_eq_filterMap {f : α → Except Fault (Option β)} {g : α → Option β}
    (h : ∀ x ∈ xs, f x = .ok (g x)) : xs.filterMapM f = .ok (xs.filterMap g) := by
  induction xs with
  | nil => rfl
  | cons x xs ih =>
    obtain ⟨hx, hxs⟩ := List.forall_mem_cons.mp h
    rw [List.filterMapM_cons, hx, ih hxs, List.filterMap_cons, ok_bind]
    cases g x <;> rfl

end Lists

end CardQuery
