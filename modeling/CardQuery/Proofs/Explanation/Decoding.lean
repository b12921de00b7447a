import CardQuery.Proofs.Explanation.Meaning

/-!
# Proofs/Explanation/Decoding — an explanation determines the meaning of a query

* `explanation_determines` — queries with plain values that have one explanation have one outline,
  and without numbers they are matched by the same cards.

An operand of a chain can be read off the explanation, whatever stands behind it
(`Query.IsReadable`): its first character says whether it is a comparison, a negation or another
chain; a comparison ends with its word, and the other two with a parenthesis.  The induction follows
the chains (`Query.chainInduction`), so that a chain is read operand by operand.
-/

namespace CardQuery

namespace Query

/-! ## Legible queries -/

/-- A query whose texts, words and patterns have neither a space nor a parenthesis. -/
def IsPlain : Query → Prop
  | compare _ _ value => value.IsPlain
  | term content => CardQuery.IsPlain content.text.toList
  | pattern p => CardQuery.IsPlain p.source.toList
  | and left right | or left right => left.IsPlain ∧ right.IsPlain
  | not operand => operand.IsPlain

/-- A query that compares nothing with a number. -/
def IsNumberless : Query → Prop
  | compare _ _ value => value.isNumber = false
  | term _ | pattern _ => True
  | and left right | or left right => left.IsNumberless ∧ right.IsNumberless
  | not operand => operand.IsNumberless

instance decidableIsPlain : DecidablePred IsPlain
  | compare _ _ value => inferInstanceAs (Decidable value.IsPlain)
  | term content => inferInstanceAs (Decidable (CardQuery.IsPlain content.text.toList))
  | pattern p => inferInstanceAs (Decidable (CardQuery.IsPlain p.source.toList))
  | and left right | or left right =>
    @instDecidableAnd _ _ (decidableIsPlain left) (decidableIsPlain right)
  | not operand => decidableIsPlain operand

instance decidableIsNumberless : DecidablePred IsNumberless
  | compare _ _ value => inferInstanceAs (Decidable (value.isNumber = false))
  | term _ | pattern _ => .isTrue trivial
  | and left right | or left right =>
    @instDecidableAnd _ _ (decidableIsNumberless left) (decidableIsNumberless right)
  | not operand => decidableIsNumberless operand

/-- A query that can be read off its explanation. -/
structure IsLegible (q : Query) : Prop where
  typed : q.WellTyped
  plain : q.IsPlain

section Legible

variable {p q : Query} {k : Connective}

theorem IsLegible.of_join (h : (k.join p q).IsLegible) : p.IsLegible ∧ q.IsLegible := by
  obtain ⟨htyped, hplain⟩ := h
  cases k
  · exact ⟨⟨htyped.1, hplain.1⟩, ⟨htyped.2, hplain.2⟩⟩
  · exact ⟨⟨htyped.1, hplain.1⟩, ⟨htyped.2, hplain.2⟩⟩

theorem IsLegible.of_not (h : (Query.not q).IsLegible) : q.IsLegible := ⟨h.typed, h.plain⟩

theorem IsLegible.operands (h : q.IsLegible) (k : Connective) : ∀ x ∈ q.operands k, x.IsLegible :=
  forall_operands (fun _ _ _ => of_join) k h

theorem IsNumberless.of_join (h : (k.join p q).IsNumberless) :
    p.IsNumberless ∧ q.IsNumberless := by
  cases k
  · exact h
  · exact h

theorem IsNumberless.operands (h : q.IsNumberless) (k : Connective) :
    ∀ x ∈ q.operands k, x.IsNumberless :=
  forall_operands (fun _ _ _ => of_join) k h

end Legible

/-! ## Leaves -/

section Leaves

variable {q : Query}

/-- A bare text is explained as under the field of names. -/
theorem toList_explain_term (content : Json) :
    (term content).explain.toList = (Comparison.mk .name .colon (.text content)).text := by
  have hlead : (Heading.mk .name .colon .quoted).text = "the name includes \"".toList := by
    decide +kernel
  have htext := toList_explainComparison .name .colon (.text content)
  rw [Value.form, hlead] at htext
  rw [Comparison.text, htext]
  change ("the name includes \"" ++ content.text ++ "\"").toList = _
  rw [String.toList_append, String.toList_append, List.append_assoc]
  rfl

/-- A bare pattern is explained as under the field of names. -/
theorem toList_explain_pattern (p : Pattern) :
    (pattern p).explain.toList = (Comparison.mk .name .colon (.pattern p)).text := by
  have hlead : (Heading.mk .name .colon .slashed).text = "the name matches /".toList := by
    decide +kernel
  have htext := toList_explainComparison .name .colon (.pattern p)
  rw [Value.form, hlead] at htext
  rw [Comparison.text, htext]
  change ("the name matches " ++ p.text).toList = _
  simp [Pattern.text, Value.word]

/-- **A query that neither joins nor negates is a comparison**, by its explanation and its
meaning. -/
theorem exists_comparison (hleaf : q.isLeaf = true) (h : q.IsLegible) :
    ∃ c : Comparison, c.IsLegible ∧ q.explain.toList = c.text
      ∧ (q.IsNumberless → c.value.isNumber = false)
      ∧ ∀ card : Card, card.WellFormed → q.matches card = card.holds c.field c.op c.value := by
  have hcolon : CompareOp.colon ∈ Field.operators .name := by decide
  obtain ⟨htyped, hplain⟩ := h
  cases q with
  | compare field op value =>
    exact ⟨⟨field, op, value⟩, ⟨htyped.1, htyped.2.1, hplain⟩, rfl, id, fun _ _ => rfl⟩
  | term content =>
    obtain ⟨s, rfl⟩ := htyped
    exact ⟨⟨.name, .colon, .text (.string s)⟩, ⟨hcolon, .inl ⟨s, rfl⟩, hplain⟩,
      toList_explain_term _, fun _ => rfl, fun _ => matches_term s⟩
  | pattern p =>
    exact ⟨⟨.name, .colon, .pattern p⟩, ⟨hcolon, .inr ⟨p, rfl⟩, hplain⟩,
      toList_explain_pattern p, fun _ => rfl, fun _ => matches_pattern p⟩
  | and | or | not => cases hleaf

end Leaves

/-! ## Openings -/

section Openings

variable {p q : Query} {r r' : List Char}

/-- The characters that an operand can open with. -/
def openings : Query → List Char
  | and .. | or .. => ['(']
  | not _ => ['n']
  | _ => ['t', 'i']

theorem exists_opening_text (c : Comparison) : ∃ x ∈ ['t', 'i'], ∃ s, c.text = x :: s := by
  obtain ⟨field, op, value⟩ := c
  have hlead : ∃ x ∈ ['t', 'i'], ∃ s, field.lead op (value.form field.kind) = x :: s := by
    unfold Field.lead
    split
    · exact ⟨'t', by simp, _, rfl⟩
    · exact ⟨'i', by simp, _, rfl⟩
    · split
      · exact ⟨'t', by simp, _, rfl⟩
      · exact ⟨'t', by simp, _, rfl⟩
  obtain ⟨x, hx, s, hs⟩ := hlead
  refine ⟨x, hx, s ++ (value.form field.kind).mark ++ value.word, ?_⟩
  rw [Comparison.text, toList_explainComparison, Heading.text, hs]
  rfl

theorem operandText_not (q : Query) :
    (Query.not q).operandText = 'n' :: 'o' :: 't' :: ' ' :: '(' :: (q.explain.toList ++ [')']) := by
  change ("not (" ++ q.explain ++ ")").toList = _
  simp

theorem operandText_of_isLeaf (h : q.isLeaf = true) : q.operandText = q.explain.toList := by
  rw [operandText, if_neg (by simp [connective?_of_isLeaf h])]

theorem operandText_of_joined {k : Connective} (h : q.connective? = some k) :
    q.operandText = '(' :: (q.explain.toList ++ [')']) := by
  rw [operandText, if_pos (by simp [h])]
  rfl

theorem exists_opening (q : Query) : ∃ c ∈ q.openings, ∃ s, q.operandText = c :: s := by
  cases q with
  | compare field op value => exact exists_opening_text ⟨field, op, value⟩
  | term content =>
    rw [operandText, if_neg (by simp [connective?]), toList_explain_term]
    exact exists_opening_text _
  | pattern p =>
    rw [operandText, if_neg (by simp [connective?]), toList_explain_pattern]
    exact exists_opening_text _
  | not q => exact ⟨'n', List.mem_cons_self, _, operandText_not q⟩
  | and | or => exact ⟨'(', List.mem_cons_self, _, rfl⟩

/-- **The first character of an operand tells its form.** -/
theorem openings_eq (h : p.operandText ++ r = q.operandText ++ r') : p.openings = q.openings := by
  obtain ⟨c, hc, s, hs⟩ := exists_opening p
  obtain ⟨d, hd, t, ht⟩ := exists_opening q
  rw [hs, ht] at h
  obtain rfl : c = d := (List.cons.inj h).1
  cases p <;> cases q <;> simp_all [openings]

theorem openings_of_isLeaf (h : q.isLeaf = true) : q.openings = ['t', 'i'] := by
  cases q with
  | and | or | not => cases h
  | _ => rfl

theorem openings_of_joined {k : Connective} (h : q.connective? = some k) : q.openings = ['('] := by
  obtain ⟨l, r, rfl⟩ := exists_join h
  cases k
  · rfl
  · rfl

theorem isLeaf_of_openings (h : q.openings = ['t', 'i']) : q.isLeaf = true := by
  cases q with
  | and | or | not => cases h
  | _ => rfl

theorem exists_connective_of_openings (h : q.openings = ['(']) : ∃ k, q.connective? = some k := by
  cases q with
  | and | or => exact ⟨_, rfl⟩
  | _ => cases h

end Openings

/-! ## Chains -/

section Chains

variable {k k' : Connective} {p q : Query} {ps qs : List Query} {r r' : List Char}

/-- What stands behind a whole explanation: nothing, or the parenthesis that closes it. -/
def Ends (s : List Char) : Prop := ∀ c ∈ s.head?, c = ')'

theorem ends_nil : Ends [] := fun _ hc => nomatch hc

theorem ends_close : Ends (')' :: r) := fun _ hc => (Option.some.inj hc).symm

theorem Ends.stops (h : Ends r) : Stops r := fun c hc => by
  rw [h c hc]
  rfl

theorem Ends.ne_space (h : Ends r) : ' ' :: r' ≠ r := by
  rintro rfl
  exact absurd (h ' ' rfl) (by decide)

/-- A query that can be read off as an operand, whatever stands behind it. -/
def IsReadable (p : Query) : Prop :=
  ∀ ⦃q : Query⦄ ⦃r r' : List Char⦄, q.IsLegible → Stops r → Stops r' →
    p.operandText ++ r = q.operandText ++ r' → p.outline = q.outline ∧ r = r'

/-- A query that can be read off a whole explanation. -/
def IsReadableWhole (p : Query) : Prop :=
  ∀ ⦃q : Query⦄ ⦃r r' : List Char⦄, q.IsLegible → Ends r → Ends r' →
    p.explain.toList ++ r = q.explain.toList ++ r' → p.outline = q.outline ∧ r = r'

/-- The operands that a chain goes on with, in words. -/
def thread (k : Connective) (qs : List Query) : List Char :=
  qs.flatMap fun q => k.inWords ++ q.operandText

theorem intercalate_cons (k : Connective) (q : Query) (qs : List Query) :
    k.inWords.intercalate ((q :: qs).map operandText) = q.operandText ++ thread k qs := by
  induction qs generalizing q with
  | nil => simp [thread]
  | cons x qs ih =>
    rw [List.map_cons, List.map_cons, List.intercalate_cons_cons, ← List.map_cons, ih]
    simp [thread]

theorem thread_cons_append (k : Connective) (q : Query) (qs : List Query) (r : List Char) :
    thread k (q :: qs) ++ r = k.inWords ++ (q.operandText ++ (thread k qs ++ r)) := by
  simp [thread]

theorem exists_thread_cons (k : Connective) (q : Query) (qs : List Query) (r : List Char) :
    ∃ s, thread k (q :: qs) ++ r = ' ' :: s := by
  rw [thread_cons_append]
  cases k
  · exact ⟨_, rfl⟩
  · exact ⟨_, rfl⟩

theorem stops_thread (k : Connective) (qs : List Query) (hr : Ends r) :
    Stops (thread k qs ++ r) := by
  rcases qs with _ | ⟨q, qs⟩
  · exact hr.stops
  · obtain ⟨s, hs⟩ := exists_thread_cons k q qs r
    rw [hs]
    exact stops_cons rfl

theorem inWords_inj {s t : List Char} (h : k.inWords ++ s = k'.inWords ++ t) : k = k' ∧ s = t := by
  cases k <;> cases k' <;> simp_all [Connective.inWords]

/-- **A chain is read operand by operand.** -/
theorem map_outline_of_thread (hps : ∀ x ∈ ps, x.IsReadable) (hqs : ∀ x ∈ qs, x.IsLegible)
    (hr : Ends r) (hr' : Ends r') (h : thread k ps ++ r = thread k' qs ++ r') :
    ps.map outline = qs.map outline ∧ (ps ≠ [] → k = k') ∧ r = r' := by
  induction ps generalizing qs with
  | nil =>
    rcases qs with _ | ⟨q, qs⟩
    · exact ⟨rfl, absurd rfl, h⟩
    · obtain ⟨s, hs⟩ := exists_thread_cons k' q qs r'
      exact absurd (hs.symm.trans h.symm) hr.ne_space
  | cons p ps ih =>
    rcases qs with _ | ⟨q, qs⟩
    · obtain ⟨s, hs⟩ := exists_thread_cons k p ps r
      exact absurd (hs.symm.trans h) hr'.ne_space
    · rw [thread_cons_append, thread_cons_append] at h
      obtain ⟨rfl, hrest⟩ := inWords_inj h
      obtain ⟨houtline, hrest⟩ := hps p List.mem_cons_self (hqs q List.mem_cons_self)
        (stops_thread k ps hr) (stops_thread k qs hr') hrest
      obtain ⟨houtlines, -, hend⟩ := ih (fun x hx => hps x (List.mem_cons_of_mem p hx))
        (fun x hx => hqs x (List.mem_cons_of_mem q hx)) hrest
      exact ⟨by rw [List.map_cons, List.map_cons, houtline, houtlines], fun _ => rfl, hend⟩

end Chains

/-! ## Whole explanations -/

section Whole

variable {k : Connective} {p q : Query}

/-- The connective that a query is read by; any will do for one that joins nothing. -/
def joint (q : Query) : Connective := q.connective?.getD .and

theorem joint_of_joined (h : q.connective? = some k) : q.joint = k := by
  rw [joint, h]
  rfl

/-- The outline of a chain; an operand alone is no chain. -/
def outlineOf (k : Connective) : List Outline → Outline
  | [o] => o
  | os => .chain k os

theorem outlineOf_congr {k k' : Connective} {os : List Outline} (hos : os ≠ [])
    (hk : ∀ o os', os = o :: os' → os' ≠ [] → k = k') : outlineOf k os = outlineOf k' os := by
  rcases os with _ | ⟨o, _ | ⟨o', os⟩⟩
  · exact absurd rfl hos
  · rfl
  · rw [hk o (o' :: os) rfl (List.cons_ne_nil _ _)]

theorem explain_eq (q : Query) :
    q.explain.toList = q.joint.inWords.intercalate ((q.operands q.joint).map operandText) := by
  cases h : q.connective? with
  | none =>
    rw [operands_of_ne (by simp [h]), List.map_singleton, List.intercalate_singleton, operandText,
      if_neg (by simp [h])]
  | some k =>
    rw [joint_of_joined h]
    exact toList_explain_of_joined h

/-- A chain has an operand on either side of its connective. -/
theorem exists_operands (h : q.connective? = some k) :
    ∃ x y qs, q.operands k = x :: y :: qs := by
  obtain ⟨l, r, rfl⟩ := exists_join h
  rw [operands_join, if_pos rfl]
  obtain ⟨x, xs, hx⟩ := List.exists_cons_of_ne_nil (operands_ne_nil k l)
  obtain ⟨y, ys, hy⟩ := List.exists_cons_of_ne_nil (operands_ne_nil k r)
  rw [hx, hy]
  rcases xs with _ | ⟨x', xs⟩
  · exact ⟨x, y, ys, rfl⟩
  · exact ⟨x, x', xs ++ y :: ys, rfl⟩

theorem outline_eq (q : Query) :
    q.outline = outlineOf q.joint ((q.operands q.joint).map outline) := by
  cases h : q.connective? with
  | none =>
    rw [operands_of_ne (by simp [h])]
    rfl
  | some k =>
    obtain ⟨x, y, qs, hqs⟩ := exists_operands h
    rw [joint_of_joined h, outline_of_joined h, hqs]
    rfl

/-- **A query is read by its operands.** -/
theorem isReadableWhole (h : ∀ x ∈ p.operands p.joint, x.IsReadable) : p.IsReadableWhole := by
  intro q r r' hq hr hr' htext
  have hlegible := hq.operands q.joint
  rw [explain_eq, explain_eq] at htext
  rw [outline_eq p, outline_eq q]
  obtain ⟨x, ps, hps⟩ := List.exists_cons_of_ne_nil (operands_ne_nil p.joint p)
  obtain ⟨y, qs, hqs⟩ := List.exists_cons_of_ne_nil (operands_ne_nil q.joint q)
  rw [hps] at h
  rw [hqs] at hlegible
  rw [hps, hqs, intercalate_cons, intercalate_cons, List.append_assoc, List.append_assoc] at htext
  rw [hps, hqs]
  obtain ⟨houtline, hrest⟩ := h x List.mem_cons_self (hlegible y List.mem_cons_self)
    (stops_thread _ ps hr) (stops_thread _ qs hr') htext
  obtain ⟨houtlines, hjoint, hend⟩ := map_outline_of_thread
    (fun x hx => h x (List.mem_cons_of_mem _ hx))
    (fun x hx => hlegible x (List.mem_cons_of_mem _ hx)) hr hr' hrest
  refine ⟨?_, hend⟩
  rw [List.map_cons, List.map_cons, ← houtline, ← houtlines]
  refine outlineOf_congr (List.cons_ne_nil _ _) fun o os hos hne => hjoint ?_
  rintro rfl
  exact hne (List.cons.inj hos).2.symm

theorem isReadable_of_isLeaf (hleaf : p.isLeaf = true) (h : p.IsLegible) : p.IsReadable := by
  intro q r r' hq hr hr' htext
  have hleaf' : q.isLeaf = true :=
    isLeaf_of_openings ((openings_eq htext).symm.trans (openings_of_isLeaf hleaf))
  obtain ⟨a, ha, hatext, -⟩ := exists_comparison hleaf h
  obtain ⟨b, hb, hbtext, -⟩ := exists_comparison hleaf' hq
  rw [operandText_of_isLeaf hleaf, operandText_of_isLeaf hleaf', hatext, hbtext] at htext
  obtain ⟨hheading, hword, hend⟩ := Comparison.eq_of_append ha hb hr hr' htext
  have hexplain : p.explain = q.explain := String.toList_injective <| by
    rw [hatext, hbtext, Comparison.text_eq, Comparison.text_eq, hheading, hword]
  rw [outline_of_isLeaf hleaf, outline_of_isLeaf hleaf', hexplain]
  exact ⟨rfl, hend⟩

theorem isReadable_not (h : p.IsReadableWhole) : (Query.not p).IsReadable := by
  intro q r r' hq hr hr' htext
  have hopenings : q.openings = ['n'] := (openings_eq htext).symm
  cases q with
  | not q =>
    rw [operandText_not, operandText_not] at htext
    simp only [List.cons_append, List.append_assoc, List.cons.injEq, true_and] at htext
    obtain ⟨houtline, hend⟩ := h hq.of_not ends_close ends_close htext
    exact ⟨congrArg Outline.not houtline, (List.cons.inj hend).2⟩
  | _ => cases hopenings

theorem isReadable_of_joined (hk : p.connective? = some k) (h : p.IsReadableWhole) :
    p.IsReadable := by
  intro q r r' hq hr hr' htext
  obtain ⟨k', hk'⟩ :=
    exists_connective_of_openings ((openings_eq htext).symm.trans (openings_of_joined hk))
  rw [operandText_of_joined hk, operandText_of_joined hk'] at htext
  simp only [List.cons_append, List.append_assoc, List.cons.injEq, true_and] at htext
  obtain ⟨houtline, hend⟩ := h hq ends_close ends_close htext
  exact ⟨houtline, (List.cons.inj hend).2⟩

/-- **Every legible query can be read off**, as an operand and as a whole. -/
theorem IsLegible.isReadable (h : p.IsLegible) : p.IsReadable ∧ p.IsReadableWhole := by
  induction p using chainInduction with
  | leaf p hp =>
    have hread : p.IsReadable := isReadable_of_isLeaf hp h
    refine ⟨hread, isReadableWhole ?_⟩
    rw [operands_of_isLeaf hp]
    exact List.forall_mem_singleton.mpr hread
  | not p ih =>
    have hread : (Query.not p).IsReadable := isReadable_not (ih h.of_not).2
    exact ⟨hread, isReadableWhole (List.forall_mem_singleton.mpr hread)⟩
  | chain k p hk ih =>
    have hwhole : p.IsReadableWhole := isReadableWhole <| by
      rw [joint_of_joined hk]
      exact fun x hx => (ih x hx (h.operands k x hx)).1
    exact ⟨isReadable_of_joined hk hwhole, hwhole⟩

/-- **Legible queries that are explained alike have one outline.** -/
theorem IsLegible.outline_eq (hp : p.IsLegible) (hq : q.IsLegible) (h : p.explain = q.explain) :
    p.outline = q.outline :=
  (hp.isReadable.2 hq ends_nil ends_nil (by rw [h])).1

end Whole

/-! ## Evaluation -/

section Evaluation

variable {k : Connective} {p q : Query} {o : Outline} {os : List Outline} {card : Card}

theorem isLeaf_of_outline {words : String} (h : q.outline = .leaf words) :
    q.isLeaf = true ∧ q.explain = words := by
  cases q with
  | and | or | not => cases h
  | _ => exact ⟨rfl, Outline.leaf.inj h⟩

theorem exists_not_of_outline (h : q.outline = .not o) : ∃ x, q = .not x ∧ x.outline = o := by
  cases q with
  | not x => exact ⟨x, rfl, Outline.not.inj h⟩
  | _ => cases h

theorem operands_of_outline (h : q.outline = .chain k os) : (q.operands k).map outline = os := by
  cases hc : q.connective? with
  | some k' =>
    rw [outline_of_joined hc] at h
    obtain ⟨rfl, hos⟩ := Outline.chain.inj h
    exact hos
  | none =>
    cases q with
    | and | or => cases hc
    | _ => cases h

/-- **Legible queries of one outline are matched by the same cards**, if they compare nothing with a
number. -/
theorem matches_eq_of_outline_eq (hp : p.IsLegible) (hq : q.IsLegible) (hnp : p.IsNumberless)
    (hnq : q.IsNumberless) (h : p.outline = q.outline) (hcard : card.WellFormed) :
    p.matches card = q.matches card := by
  induction p using chainInduction generalizing q with
  | leaf p hleaf =>
    rw [outline_of_isLeaf hleaf] at h
    obtain ⟨hleaf', hexplain⟩ := isLeaf_of_outline h.symm
    obtain ⟨a, ha, hatext, hna, hamatches⟩ := exists_comparison hleaf hp
    obtain ⟨b, hb, hbtext, hnb, hbmatches⟩ := exists_comparison hleaf' hq
    rw [hamatches card hcard, hbmatches card hcard]
    exact Comparison.holds_eq_of_text_eq card ha hb (hna hnp) (hnb hnq)
      (by rw [← hatext, ← hbtext, hexplain])
  | not p ih =>
    obtain ⟨x, rfl, hx⟩ := exists_not_of_outline h.symm
    have hmatches : p.matches card = x.matches card := ih hp.of_not hq.of_not hnp hnq hx.symm
    change (do return !(← p.matches card)) = do return !(← x.matches card)
    rw [hmatches]
  | chain k p hk ih =>
    rw [outline_of_joined hk] at h
    rw [matches_eq_settle k p, matches_eq_settle k q]
    refine congrArg (settle k) (map_congr_of_map_eq (operands_of_outline h.symm).symm ?_)
    exact fun x hx y hy hxy => ih x hx (hp.operands k x hx) (hq.operands k y hy)
      (hnp.operands k x hx) (hnq.operands k y hy) hxy

end Evaluation

/-- **An explanation determines the meaning of a query.**  Queries that are read from texts, whose
values have neither spaces nor parentheses, and that are explained alike have one outline: chains
flattened, they have one structure and comparisons in the same words.  If they compare nothing with
numbers, the same cards match them. -/
theorem explanation_determines {s t : String} {p q : Query} (hp : parse s = .ok p)
    (hq : parse t = .ok q) (hsp : p.IsPlain) (hsq : q.IsPlain) (h : p.explain = q.explain) :
    p.outline = q.outline ∧
      (p.IsNumberless → q.IsNumberless →
        ∀ card : Card, card.WellFormed → p.matches card = q.matches card) := by
  have hlp : p.IsLegible := ⟨parse_wellTyped hp, hsp⟩
  have hlq : q.IsLegible := ⟨parse_wellTyped hq, hsq⟩
  have houtline : p.outline = q.outline := hlp.outline_eq hlq h
  exact ⟨houtline, fun hnp hnq _ hcard =>
    matches_eq_of_outline_eq hlp hlq hnp hnq houtline hcard⟩

/-- Two bracketings of a chain, with comparisons that are written otherwise. -/
theorem rebracketed_query_determined :
    ∃ p q, parse "bolt c:wu (not:promo or /x/i)" = .ok p
      ∧ parse "name:bolt (c>=uw (is!=promo or name:/x/i))" = .ok q
      ∧ p.outline = q.outline
      ∧ p.matches (.named (.string "Island")) = q.matches (.named (.string "Island")) := by
  have hcheck : (match parse "bolt c:wu (not:promo or /x/i)",
      parse "name:bolt (c>=uw (is!=promo or name:/x/i))" with
    | .ok p, .ok q => decide (p.IsPlain ∧ q.IsPlain ∧ p.IsNumberless ∧ q.IsNumberless
        ∧ p.explain = q.explain)
    | _, _ => false) = true := by decide +kernel
  split at hcheck
  · rename_i p q hp hq
    obtain ⟨hsp, hsq, hnp, hnq, h⟩ := of_decide_eq_true hcheck
    obtain ⟨houtline, hmatches⟩ := explanation_determines hp hq hsp hsq h
    exact ⟨p, q, hp, hq, houtline, hmatches hnp hnq _ (Card.named_wellFormed "Island")⟩
  · cases hcheck

end Query

end CardQuery
