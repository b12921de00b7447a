import CardQuery.Proofs.Json.Number
import Mathlib.Data.Option.Basic

/-!
# Proofs/Json/Reading — what is written is read back

* `read?_render` — every JSON value, written and read again, is the *settled* value: null stands for
  the numbers that are not finite, and of two members with one key the later one holds.
* `load?_of_store?` — a document that is stored is loaded as the settled value.

The readers follow the writers part by part: a string, a number, a word, and items and members in
one induction over the tree.  A bound on the depth that is not less than the length of what was
written is enough.
-/

namespace CardQuery.Json

/-! ## Strings -/

section Strings

variable {fuel : Nat} {rest cs r : List Char} {c e : Char}

/-- A letter after a backslash. -/
theorem readString?_letter (he : simpleEscape? e = some c)
    (h : readString? fuel rest = some (cs, r)) :
    readString? (fuel + 1) ('\\' :: e :: rest) = some (c :: cs, r) := by
  have hu : e ≠ 'u' := by
    rintro rfl
    cases he
  rw [readString?.eq_5 _ _ _ hu, he, h]
  rfl

theorem readHex4?_append {s : List Char} {n : Nat} (h : readHex4? s = some (n, []))
    (rest : List Char) : readHex4? (s ++ rest) = some (n, rest) := by
  unfold readHex4? at h
  split at h
  · obtain ⟨w, hw, h⟩ := Option.bind_eq_some_iff.mp h
    obtain ⟨x, hx, h⟩ := Option.bind_eq_some_iff.mp h
    obtain ⟨y, hy, h⟩ := Option.bind_eq_some_iff.mp h
    obtain ⟨z, hz, h⟩ := Option.bind_eq_some_iff.mp h
    cases h
    simp [readHex4?, hw, hx, hy, hz]
  · cases h

/-- The code point of a control character. -/
theorem readString?_code (hc : c.toNat < 0x20) (h : readString? fuel rest = some (cs, r)) :
    readString? (fuel + 1) ('\\' :: 'u' :: (Text.hexDigits 4 c.toNat ++ rest))
      = some (c :: cs, r) := by
  have hall : ∀ n < 0x20, readHex4? (Text.hexDigits 4 n) = some (n, []) := by decide
  have hhigh : (decide (0xD800 ≤ c.toNat) && decide (c.toNat < 0xDC00)) = false := by
    rw [decide_eq_false (by omega), Bool.false_and]
  have hlow : (!(decide (0xDC00 ≤ c.toNat) && decide (c.toNat < 0xE000))) = true := by
    rw [decide_eq_false (by omega), Bool.false_and]
    rfl
  have hcode : readCodePoint? (Text.hexDigits 4 c.toNat ++ rest) = some (c, rest) := by
    rw [readCodePoint?, readHex4?_append (hall _ hc), Option.bind_eq_bind, Option.bind_some]
    dsimp only
    rw [hhigh, if_neg Bool.false_ne_true, hlow, Char.ofNat_toNat]
    rfl
  rw [readString?, hcode]
  simp [h]

/-- A character that stands for itself. -/
theorem readString?_plain (hquote : c ≠ '"') (hslash : c ≠ '\\') (hc : 0x20 ≤ c.toNat)
    (h : readString? fuel rest = some (cs, r)) :
    readString? (fuel + 1) (c :: rest) = some (c :: cs, r) := by
  have hguard : (c != '\\' && decide (0x20 ≤ c.toNat)) = true := by simp [hslash, hc]
  rw [readString?.eq_6 _ _ _ hquote (fun _ e => absurd e hslash) (fun _ _ e => absurd e hslash),
    hguard, h]
  rfl

/-- The three ways in which a character is written. -/
theorem escapeChar_cases (c : Char) :
    (∃ e, escapeChar c = ['\\', e] ∧ simpleEscape? e = some c)
      ∨ (c.toNat < 0x20 ∧ escapeChar c = '\\' :: 'u' :: Text.hexDigits 4 c.toNat)
      ∨ (c ≠ '"' ∧ c ≠ '\\' ∧ 0x20 ≤ c.toNat ∧ escapeChar c = [c]) := by
  have hletter {d e : Char} (hc : (c == d) = true) (he : simpleEscape? e = some d) :
      ∃ e', ['\\', e] = ['\\', e'] ∧ simpleEscape? e' = some c :=
    ⟨e, rfl, by rwa [beq_iff_eq.mp hc]⟩
  unfold escapeChar
  split
  · exact .inl (hletter ‹_› rfl)
  rename_i hquote
  split
  · exact .inl (hletter ‹_› rfl)
  rename_i hslash
  split
  · exact .inl (hletter ‹_› rfl)
  split
  · exact .inl (hletter ‹_› rfl)
  split
  · exact .inl (hletter ‹_› rfl)
  split
  · exact .inl (hletter ‹_› rfl)
  split
  · exact .inl (hletter ‹_› rfl)
  split
  · exact .inr (.inl ⟨‹_›, rfl⟩)
  · rename_i hcode
    rw [beq_iff_eq] at hquote hslash
    exact .inr (.inr ⟨hquote, hslash, Nat.not_lt.mp hcode, rfl⟩)

/-- **One character is read back.** -/
theorem readString?_escapeChar (c : Char) (h : readString? fuel rest = some (cs, r)) :
    readString? (fuel + 1) (escapeChar c ++ rest) = some (c :: cs, r) := by
  rcases escapeChar_cases c with ⟨e, hescape, he⟩ | ⟨hc, hescape⟩ | ⟨hquote, hslash, hc, hescape⟩
  · rw [hescape]
    exact readString?_letter he h
  · rw [hescape]
    exact readString?_code hc h
  · rw [hescape]
    exact readString?_plain hquote hslash hc h

theorem escapeChar_ne_nil (c : Char) : escapeChar c ≠ [] := by
  rcases escapeChar_cases c with ⟨e, hescape, -⟩ | ⟨-, hescape⟩ | ⟨-, -, -, hescape⟩
  all_goals
    rw [hescape]
    exact List.cons_ne_nil _ _

/-- **A string is read back up to its closing quote.** -/
theorem readString?_flatMap (s : List Char) (hfuel : s.length < fuel) :
    readString? fuel (s.flatMap escapeChar ++ '"' :: rest) = some (s, rest) := by
  induction s generalizing fuel with
  | nil =>
    obtain ⟨n, rfl⟩ := Nat.exists_eq_succ_of_ne_zero (Nat.ne_of_gt hfuel)
    exact readString?.eq_3 n rest
  | cons c s ih =>
    obtain ⟨n, rfl⟩ := Nat.exists_eq_succ_of_ne_zero (Nat.ne_of_gt (Nat.zero_lt_of_lt hfuel))
    rw [List.flatMap_cons, List.append_assoc]
    exact readString?_escapeChar c (ih (Nat.lt_of_succ_lt_succ hfuel))

theorem length_le_flatMap_escapeChar (s : List Char) :
    s.length ≤ (s.flatMap escapeChar).length := by
  induction s with
  | nil => exact Nat.zero_le _
  | cons c s ih =>
    have hone : 1 ≤ (escapeChar c).length := List.length_pos_iff.mpr (escapeChar_ne_nil c)
    rw [List.flatMap_cons, List.length_append, List.length_cons]
    omega

end Strings

/-- What stands after the opening quote of a string is read as the string. -/
theorem readString?_renderString (s : String) (rest : List Char) :
    ∃ t, renderString s ++ rest = '"' :: t
      ∧ readString? (t.length + 1) t = some (s.toList, rest) := by
  refine ⟨s.toList.flatMap escapeChar ++ '"' :: rest, ?_, readString?_flatMap s.toList ?_⟩
  · rw [renderString, List.cons_append, List.cons_append, List.append_assoc]
    rfl
  · have hlength := length_le_flatMap_escapeChar s.toList
    rw [List.length_append, List.length_cons]
    omega

/-! ## Values -/

mutual

/-- A value as it is read back: null stands for a number that is not finite, and of two members with
one key the later one holds. -/
def settled : Json → Json
  | .null => .null
  | .bool b => .bool b
  | .int n => .int n
  | .double x => if x.isFinite then .double x else .null
  | .string s => .string s
  | .array items => .array (settledItems items)
  | .object members => ofMembers (settledMembers members)

/-- Items as they are read back. -/
def settledItems : List Json → List Json
  | [] => []
  | x :: xs => settled x :: settledItems xs

/-- Members as they are read back. -/
def settledMembers : List (String × Json) → List (String × Json)
  | [] => []
  | (k, v) :: rest => (k, settled v) :: settledMembers rest

end

/-- A number at the head of a value. -/
theorem readValue?_number {fuel : Nat} {s : List Char} {found : Json × List Char}
    (h : readNumber? s = some found) : readValue? (fuel + 1) s = some found := by
  obtain ⟨c, t, rfl, hc⟩ := exists_cons_of_readNumber? h
  have hother {d : Char} (hdash : d ≠ '-') (hdigit : d.isDigit = false) {t' : List Char} :
      c :: t ≠ d :: t' := by
    intro heq
    obtain rfl := (List.cons.inj heq).1
    rcases hc with hc | hc
    · exact hdash hc
    · rw [hdigit] at hc
      cases hc
  rw [readValue?.eq_8 _ _ (fun _ => hother (by decide) rfl) (fun _ => hother (by decide) rfl)
    (fun _ => hother (by decide) rfl) (fun _ => hother (by decide) rfl)
    (fun _ => hother (by decide) rfl) (fun _ => hother (by decide) rfl), h]

/-- A text that begins with no blank and with no closing bracket or brace. -/
def IsOpen (s : List Char) : Prop :=
  ∃ c t, s = c :: t ∧ Text.isGap c = false ∧ c ≠ ']' ∧ c ≠ '\x7d'

theorem IsOpen.append {s : List Char} (h : IsOpen s) (rest : List Char) : IsOpen (s ++ rest) := by
  obtain ⟨c, t, rfl, hc⟩ := h
  exact ⟨c, t ++ rest, rfl, hc⟩

theorem IsOpen.skipBlanks {s : List Char} (h : IsOpen s) : skipBlanks s = s := by
  obtain ⟨c, t, rfl, hc, -⟩ := h
  exact List.dropWhile_cons_of_neg (by rw [hc]; exact Bool.false_ne_true)

theorem IsOpen.of_readNumber? {s : List Char} {found : Json × List Char}
    (h : readNumber? s = some found) : IsOpen s := by
  obtain ⟨c, t, rfl, hc⟩ := exists_cons_of_readNumber? h
  refine ⟨c, t, rfl, ?_⟩
  rcases hc with rfl | hc
  · decide
  · have hother {d : Char} (hd : d.isDigit = false) : c ≠ d := by
      rintro rfl
      rw [hd] at hc
      cases hc
    refine ⟨?_, hother rfl, hother rfl⟩
    simp [Text.isGap, hother]

theorem isOpen_renderChars (j : Json) : IsOpen j.renderChars := by
  cases j with
  | null => exact ⟨'n', _, rfl, by decide⟩
  | bool b =>
    cases b with
    | true => exact ⟨'t', _, rfl, by decide⟩
    | false => exact ⟨'f', _, rfl, by decide⟩
  | int n =>
    have hread := readNumber?_int n endsNumber_nil
    rw [List.append_nil] at hread
    exact .of_readNumber? hread
  | double x =>
    by_cases hx : x.isFinite = true
    · have hread := readNumber?_renderDouble hx endsNumber_nil
      rw [List.append_nil] at hread
      exact .of_readNumber? hread
    · exact ⟨'n', ['u', 'l', 'l'], by rw [renderChars, renderDouble, if_neg hx], by decide⟩
  | string s => exact ⟨'"', _, rfl, by decide⟩
  | array items => exact ⟨'[', _, rfl, by decide⟩
  | object members => exact ⟨'\x7b', _, rfl, by decide⟩

/-! ## Steps of the readers -/

section Steps

variable {fuel : Nat} {s t rest r : List Char} {item value : Json} {items : List Json}
  {members : List (String × Json)}

theorem readItems?_last (h : readValue? fuel s = some (item, ']' :: rest)) :
    readItems? (fuel + 1) s = some ([item], rest) := by
  rw [readItems?, h]
  rfl

theorem readItems?_more (h : readValue? fuel s = some (item, ',' :: t)) (ht : IsOpen t)
    (hmore : readItems? fuel t = some (items, r)) :
    readItems? (fuel + 1) s = some (item :: items, r) := by
  have hcomma : skipBlanks (',' :: t) = ',' :: t := rfl
  rw [readItems?, h]
  simp only [hcomma, ht.skipBlanks, hmore, Option.map_some]

theorem readArray? (ht : IsOpen t) (h : readItems? fuel t = some (items, r)) :
    readValue? (fuel + 1) ('[' :: t) = some (.array items, r) := by
  obtain ⟨c, t', heq, -, hbracket, -⟩ := id ht
  rw [readValue?.eq_3, ht.skipBlanks]
  split
  · exact absurd (List.cons.inj heq).1.symm hbracket
  · rw [h]
    rfl

variable {key : String}

theorem readMembers?_last
    (h : readValue? fuel t = some (value, '\x7d' :: rest)) (ht : IsOpen t) :
    readMembers? (fuel + 1) (renderString key ++ ':' :: t) = some ([(key, value)], rest) := by
  obtain ⟨t', heq, hkey⟩ := readString?_renderString key (':' :: t)
  have hcolon : skipBlanks (':' :: t) = ':' :: t := rfl
  have hbrace : skipBlanks ('\x7d' :: rest) = '\x7d' :: rest := rfl
  rw [heq, readMembers?.eq_2, hkey]
  simp only [hcolon, ht.skipBlanks, h, hbrace, String.ofList_toList]

theorem readMembers?_more (h : readValue? fuel t = some (value, ',' :: s)) (ht : IsOpen t)
    (hs : IsOpen s) (hmore : readMembers? fuel s = some (members, r)) :
    readMembers? (fuel + 1) (renderString key ++ ':' :: t) = some ((key, value) :: members, r) := by
  obtain ⟨t', heq, hkey⟩ := readString?_renderString key (':' :: t)
  have hcolon : skipBlanks (':' :: t) = ':' :: t := rfl
  have hcomma : skipBlanks (',' :: s) = ',' :: s := rfl
  rw [heq, readMembers?.eq_2, hkey]
  simp only [hcolon, ht.skipBlanks, h, hcomma, hs.skipBlanks, hmore, Option.map_some,
    String.ofList_toList]

theorem readObject? (ht : IsOpen t) (h : readMembers? fuel t = some (members, r)) :
    readValue? (fuel + 1) ('\x7b' :: t) = some (ofMembers members, r) := by
  obtain ⟨c, t', heq, -, -, hbrace⟩ := id ht
  rw [readValue?.eq_4, ht.skipBlanks]
  split
  · exact absurd (List.cons.inj heq).1.symm hbrace
  · rw [h]
    rfl

end Steps

/-! ## The whole tree -/

theorem renderItems_cons_cons (x y : Json) (items : List Json) :
    renderItems (x :: y :: items) = x.renderChars ++ ',' :: renderItems (y :: items) := rfl

theorem renderMembers_cons_cons (k : String) (v : Json) (m : String × Json)
    (members : List (String × Json)) :
    renderMembers ((k, v) :: m :: members)
      = renderString k ++ ':' :: v.renderChars ++ ',' :: renderMembers (m :: members) := rfl

theorem isOpen_renderItems (x : Json) (items : List Json) : IsOpen (renderItems (x :: items)) := by
  cases items with
  | nil => exact isOpen_renderChars x
  | cons y items => exact (isOpen_renderChars x).append _

theorem isOpen_renderMembers (m : String × Json) (members : List (String × Json)) :
    IsOpen (renderMembers (m :: members)) := by
  have hkey (t : List Char) : IsOpen (renderString m.1 ++ t) := ⟨'"', _, rfl, by decide⟩
  cases members with
  | nil => exact hkey _
  | cons m' members =>
    rw [renderMembers_cons_cons, List.append_assoc]
    exact hkey _

mutual

/-- **What a value is written as is read as the settled value.** -/
theorem readValue?_renderChars : ∀ (j : Json) {fuel : Nat} {rest : List Char},
    j.renderChars.length ≤ fuel → EndsNumber rest →
      readValue? fuel (j.renderChars ++ rest) = some (j.settled, rest)
  | j, 0, _, hfuel, _ => by
    obtain ⟨c, t, heq, -⟩ := isOpen_renderChars j
    rw [heq] at hfuel
    exact absurd hfuel (Nat.not_succ_le_zero _)
  | .null, _ + 1, _, _, _ | .bool true, _ + 1, _, _, _ | .bool false, _ + 1, _, _, _ => rfl
  | .int n, _ + 1, _, _, hrest => readValue?_number (readNumber?_int n hrest)
  | .double x, _ + 1, _, _, hrest => by
    rw [renderChars, settled]
    by_cases hx : x.isFinite = true
    · rw [if_pos hx]
      exact readValue?_number (readNumber?_renderDouble hx hrest)
    · rw [if_neg hx, renderDouble, if_neg hx]
      rfl
  | .string s, _ + 1, rest, _, _ => by
    obtain ⟨t, heq, hstring⟩ := readString?_renderString s rest
    rw [renderChars, heq, readValue?.eq_2, hstring, settled]
    simp only [Option.map_some, String.ofList_toList]
  | .array [], _ + 1, _, _, _ | .object [], _ + 1, _, _, _ => rfl
  | .array (item :: items), fuel + 1, rest, hfuel, _ => by
    have hlength : (renderItems (item :: items)).length < fuel := by
      rw [renderChars, List.length_append, List.length_cons, List.length_singleton] at hfuel
      omega
    rw [renderChars, settled, List.cons_append, List.cons_append, List.append_assoc]
    exact readArray? ((isOpen_renderItems item items).append _)
      (readItems?_renderItems item items hlength)
  | .object (member :: members), fuel + 1, rest, hfuel, _ => by
    have hlength : (renderMembers (member :: members)).length < fuel := by
      rw [renderChars, List.length_append, List.length_cons, List.length_singleton] at hfuel
      omega
    rw [renderChars, settled, List.cons_append, List.cons_append, List.append_assoc]
    exact readObject? ((isOpen_renderMembers member members).append _)
      (readMembers?_renderMembers member members hlength)

theorem readItems?_renderItems :
    ∀ (item : Json) (items : List Json) {fuel : Nat} {rest : List Char},
    (renderItems (item :: items)).length < fuel →
      readItems? fuel (renderItems (item :: items) ++ ']' :: rest)
        = some (settledItems (item :: items), rest)
  | item, [], fuel + 1, rest, hfuel =>
    readItems?_last (readValue?_renderChars item (Nat.le_of_lt_succ hfuel) fun c hc => by
      cases hc
      decide)
  | item, next :: items, fuel + 1, rest, hfuel => by
    rw [renderItems_cons_cons, List.length_append, List.length_cons] at hfuel
    rw [renderItems_cons_cons, List.append_assoc, List.cons_append]
    refine readItems?_more (readValue?_renderChars item (by omega) fun c hc => ?_)
      ((isOpen_renderItems next items).append _) (readItems?_renderItems next items (by omega))
    cases hc
    decide

theorem readMembers?_renderMembers : ∀ (member : String × Json) (members : List (String × Json))
    {fuel : Nat} {rest : List Char}, (renderMembers (member :: members)).length < fuel →
      readMembers? fuel (renderMembers (member :: members) ++ '\x7d' :: rest)
        = some (settledMembers (member :: members), rest)
  | (key, value), [], fuel + 1, rest, hfuel => by
    rw [renderMembers, List.length_append, List.length_cons] at hfuel
    rw [renderMembers, List.append_assoc, List.cons_append]
    refine readMembers?_last (readValue?_renderChars value (by omega) fun c hc => ?_)
      ((isOpen_renderChars value).append _)
    cases hc
    decide
  | (key, value), next :: members, fuel + 1, rest, hfuel => by
    rw [renderMembers_cons_cons, List.length_append, List.length_append, List.length_cons,
      List.length_cons] at hfuel
    rw [renderMembers_cons_cons, List.append_assoc, List.append_assoc, List.cons_append,
      List.cons_append]
    refine readMembers?_more (readValue?_renderChars value (by omega) fun c hc => ?_)
      ((isOpen_renderChars value).append _) ((isOpen_renderMembers next members).append _)
      (readMembers?_renderMembers next members (by omega))
    cases hc
    decide

end

/-- **Every value is read back from its text, settled.** -/
theorem read?_render (j : Json) : read? j.render = some j.settled := by
  have hfuel : j.renderChars.length ≤ 2 * j.renderChars.length + 1 := by omega
  have hread := readValue?_renderChars j hfuel endsNumber_nil
  rw [List.append_nil] at hread
  have htext : j.render.toList = j.renderChars := String.toList_ofList
  simp only [read?, htext, (isOpen_renderChars j).skipBlanks, hread]
  rfl

/-! ## Stored documents -/

section Members

variable {P : Json → Prop} {members : List (String × Json)}

/-- What holds of the members, and of a value that is set, holds of the members after that. -/
theorem forall_put {value : Json} (key : String) (hvalue : P value) (h : ∀ m ∈ members, P m.2) :
    ∀ m ∈ put key value members, P m.2 := by
  induction members with
  | nil => exact List.forall_mem_singleton.mpr hvalue
  | cons m members ih =>
    obtain ⟨hm, hmembers⟩ := List.forall_mem_cons.mp h
    rw [put]
    split
    · exact List.forall_mem_cons.mpr ⟨hvalue, hmembers⟩
    · exact List.forall_mem_cons.mpr ⟨hm, ih hmembers⟩

/-- What holds of the members as they are written holds of the members of the object. -/
theorem exists_ofMembers_eq (h : ∀ m ∈ members, P m.2) :
    ∃ ms, ofMembers members = .object ms ∧ ∀ m ∈ ms, P m.2 := by
  have hfold : ∀ acc : List (String × Json), (∀ m ∈ acc, P m.2) →
      ∀ m ∈ members.foldl (fun acc m => put m.1 m.2 acc) acc, P m.2 := by
    induction members with
    | nil => exact fun acc hacc => hacc
    | cons m members ih =>
      intro acc hacc
      obtain ⟨hm, hmembers⟩ := List.forall_mem_cons.mp h
      exact ih hmembers _ (forall_put m.1 hm hacc)
  exact ⟨_, rfl, hfold [] nofun⟩

theorem nestingMembers_le_iff {n : Nat} :
    nestingMembers members ≤ n ↔ ∀ m ∈ members, nesting m.2 ≤ n := by
  induction members with
  | nil => exact ⟨fun _ => nofun, fun _ => Nat.zero_le n⟩
  | cons m members ih => rw [nestingMembers, Nat.max_le, ih, List.forall_mem_cons]

theorem narrowMembers?_eq_self (h : ∀ m ∈ members, narrow? m.2 = some m.2) :
    narrowMembers? members = some members := by
  induction members with
  | nil => rfl
  | cons m members ih =>
    obtain ⟨hm, hmembers⟩ := List.forall_mem_cons.mp h
    rw [narrowMembers?, hm, ih hmembers]
    rfl

end Members

mutual

/-- Settling nests no deeper. -/
theorem nesting_settled_le : ∀ j : Json, j.settled.nesting ≤ j.nesting
  | .null | .bool _ | .int _ | .string _ => Nat.le_refl _
  | .double x => by
    rw [settled]
    split
    · exact Nat.le_refl _
    · exact Nat.le_refl _
  | .array items => Nat.succ_le_succ (nestingItems_settledItems_le items)
  | .object members => by
    obtain ⟨ms, heq, hms⟩ := exists_ofMembers_eq (P := (nesting · ≤ nestingMembers members))
      (forall_nesting_settledMembers_le members)
    rw [settled, heq]
    exact Nat.succ_le_succ (nestingMembers_le_iff.mpr hms)

theorem nestingItems_settledItems_le : ∀ items : List Json,
    nestingItems (settledItems items) ≤ nestingItems items
  | [] => Nat.le_refl _
  | item :: items => by
    have hitem := nesting_settled_le item
    have hitems := nestingItems_settledItems_le items
    rw [settledItems, nestingItems, nestingItems]
    omega

theorem forall_nesting_settledMembers_le : ∀ members : List (String × Json),
    ∀ m ∈ settledMembers members, m.2.nesting ≤ nestingMembers members
  | [] => nofun
  | (k, v) :: members => by
    have hv := nesting_settled_le v
    refine List.forall_mem_cons.mpr ⟨?_, fun m hm => ?_⟩
    · rw [nestingMembers]
      exact Nat.le_trans hv (Nat.le_max_left _ _)
    · have hmembers := forall_nesting_settledMembers_le members m hm
      rw [nestingMembers]
      exact Nat.le_trans hmembers (Nat.le_max_right _ _)

end

mutual

/-- A settled value with small whole numbers is held by a stored document as it is. -/
theorem narrow?_settled : ∀ j : Json, j.wholesFit = true → narrow? j.settled = some j.settled
  | .null, _ | .bool _, _ | .string _, _ => rfl
  | .int n, h => if_pos h
  | .double x, _ => by
    rw [settled]
    split
    · rename_i hx
      rw [narrow?, if_pos hx]
    · rfl
  | .array items, h => by
    rw [settled, narrow?, narrowItems?_settledItems items h]
    rfl
  | .object members, h => by
    obtain ⟨ms, heq, hms⟩ := exists_ofMembers_eq (P := fun v => narrow? v = some v)
      (forall_narrow?_settledMembers members h)
    rw [settled, heq, narrow?, narrowMembers?_eq_self hms]
    rfl

theorem narrowItems?_settledItems : ∀ items : List Json, wholesFitItems items = true →
    narrowItems? (settledItems items) = some (settledItems items)
  | [], _ => rfl
  | item :: items, h => by
    obtain ⟨hitem, hitems⟩ := Bool.and_eq_true_iff.mp h
    rw [settledItems, narrowItems?, narrow?_settled item hitem,
      narrowItems?_settledItems items hitems]
    rfl

theorem forall_narrow?_settledMembers : ∀ members : List (String × Json),
    wholesFitMembers members = true → ∀ m ∈ settledMembers members, narrow? m.2 = some m.2
  | [], _ => nofun
  | (k, v) :: members, h => by
    obtain ⟨hv, hmembers⟩ := Bool.and_eq_true_iff.mp h
    exact List.forall_mem_cons.mpr
      ⟨narrow?_settled v hv, forall_narrow?_settledMembers members hmembers⟩

end

/-- **A stored document is loaded as the settled value.** -/
theorem load?_of_store? {j : Json} {document : String} (h : store? j = some document) :
    load? document = some j.settled := by
  unfold store? at h
  split at h
  · rename_i hroom
    obtain ⟨hfit, hnesting⟩ := Bool.and_eq_true_iff.mp hroom
    cases h
    have hdeep : j.settled.nesting ≤ 1024 :=
      Nat.le_trans (nesting_settled_le j) (Nat.le_trans (of_decide_eq_true hnesting) (by decide))
    have hguard : guard (j.settled.nesting ≤ 1024) = some () := if_pos hdeep
    rw [load?, read?_render, Option.bind_eq_bind, Option.bind_some, hguard,
      narrow?_settled j hfit]
    rfl
  · cases h

end CardQuery.Json
