import CardQuery.Arguments
import CardQuery.Fault

/-!
# Proofs/Arguments — which queries reach the search

* `Argument.ofText_eq_plain_iff` — an argument is taken as it is exactly if it is an operand: it
  does not begin with a dash, is the dash alone, or begins no option and looks like a negative number
  or has a space in it.
* `Arguments.parse_operands`, `Arguments.operands_of_parse` — so a query and the path of a card file
  are read as such if both are operands, and otherwise the command does not run.

Queries are negated with a dash, so that not every query is an operand.
-/

namespace CardQuery

/-! ## Operands -/

namespace Argument

/-- **Whether an argument is taken for an option**: it begins like the short option for help, or what
it has before its first equals sign is the beginning of a long option. -/
def NamesOption (s : List Char) : Prop :=
  ['-', 'h'] <+: s ∨ ['-', '-'] <+: s ∧ ∃ known ∈ Switch.long, (cut s).1 <+: known.1.toList

instance (s : List Char) : Decidable (NamesOption s) := inferInstanceAs (Decidable (_ ∨ _ ∧ _))

/-- **Whether an argument is an operand.** -/
def IsOperand (s : String) : Prop :=
  s.toList.head? ≠ some '-' ∨ s = "-"
    ∨ ¬ NamesOption s.toList ∧ (isNegativeNumber s.toList = true ∨ ' ' ∈ s.toList)

instance (s : String) : Decidable (IsOperand s) := inferInstanceAs (Decidable (_ ∨ _ ∨ _))

section Operands

variable {s : List Char} {t : String}

theorem otherwise_eq_plain_iff : otherwise s = .plain t
    ↔ (isNegativeNumber s = true ∨ ' ' ∈ s) ∧ t = String.ofList s := by
  rw [otherwise]
  by_cases h : isNegativeNumber s = true ∨ ' ' ∈ s
  · have hplain : (isNegativeNumber s || s.contains ' ') = true := by simpa using h
    rw [if_pos hplain]
    exact ⟨fun e => ⟨h, (Argument.plain.inj e).symm⟩, fun e => by rw [e.2]⟩
  · have hunknown : ¬ (isNegativeNumber s || s.contains ' ') = true := by simpa using h
    rw [if_neg hunknown]
    exact ⟨nofun, fun e => absurd e.1 h⟩

/-- A long option begins with itself. -/
theorem exists_prefix_of_lookup {name : List Char} {switch : Switch}
    (h : Switch.long.lookup (String.ofList name) = some switch) :
    ∃ known ∈ Switch.long, name <+: known.1.toList := by
  obtain ⟨before, after, hsplit, -⟩ := List.lookup_eq_some_iff.mp h
  refine ⟨(String.ofList name, switch), ?_, ?_⟩
  · rw [hsplit]
    exact List.mem_append_right _ List.mem_cons_self
  · exact ⟨[], by rw [List.append_nil, String.toList_ofList]⟩

/-- An argument with two dashes is taken as it is only if it begins no long option. -/
theorem ofLong_eq_plain_iff : ofLong s = .ok (.plain t)
    ↔ (¬ ∃ known ∈ Switch.long, (cut s).1 <+: known.1.toList) ∧ otherwise s = .plain t := by
  rw [ofLong]
  obtain ⟨name, value⟩ := cut s
  dsimp only
  cases hlookup : Switch.long.lookup (String.ofList name) with
  | some switch =>
    constructor
    · intro h
      cases h
    · exact fun h => absurd (exists_prefix_of_lookup hlookup) h.1
  | none =>
    dsimp only
    generalize hbegun : Switch.long.filter _ = begun
    have hbegins {known : String × Switch} :
        known ∈ begun ↔ known ∈ Switch.long ∧ name <+: known.1.toList := by
      rw [← hbegun, List.mem_filter, List.isPrefixOf_iff_prefix]
    cases begun with
    | nil =>
      refine ⟨fun h => ⟨?_, Except.ok.inj h⟩, fun h => congrArg Except.ok h.2⟩
      rintro ⟨known, hknown⟩
      cases hbegins.mpr hknown
    | cons known more =>
      have hknown := hbegins.mp List.mem_cons_self
      constructor
      · intro h
        cases more <;> cases h
      · exact fun h => absurd ⟨known, hknown⟩ h.1

/-- An argument that goes on behind a dash. -/
theorem isOperand_iff_of_dash {s : String} {c : Char} {rest : List Char}
    (h : s.toList = '-' :: c :: rest) : IsOperand s
      ↔ ¬ NamesOption s.toList ∧ (isNegativeNumber s.toList = true ∨ ' ' ∈ s.toList) := by
  have hhead : ¬ s.toList.head? ≠ some '-' := fun hn => hn (by rw [h]; rfl)
  have hdash : s ≠ "-" := by
    rintro rfl
    cases h
  rw [IsOperand]
  exact ⟨fun hs => (hs.resolve_left hhead).resolve_left hdash, fun hs => .inr (.inr hs)⟩

end Operands

/-- **An argument is taken as it is exactly if it is an operand.** -/
theorem ofText_eq_plain_iff {s t : String} :
    ofText s = .ok (.plain t) ↔ IsOperand s ∧ t = s := by
  have hself : String.ofList s.toList = s := String.ofList_toList
  have hhelp {rest : List Char} (h : s.toList = '-' :: 'h' :: rest) : ¬ IsOperand s := by
    rw [isOperand_iff_of_dash h, h]
    exact fun hs => hs.1 (.inl ⟨rest, rfl⟩)
  unfold ofText
  split
  · rename_i rest hlong
    rw [ofLong_eq_plain_iff, otherwise_eq_plain_iff, isOperand_iff_of_dash hlong, ← hlong, hself,
      and_assoc]
    have hnames : NamesOption s.toList
        ↔ ∃ known ∈ Switch.long, (cut s.toList).1 <+: known.1.toList := by
      rw [NamesOption, hlong]
      constructor
      · rintro (⟨rest', h⟩ | ⟨-, h⟩)
        · cases h
        · exact h
      · exact fun h => .inr ⟨⟨rest, rfl⟩, h⟩
    rw [hnames]
  · rename_i h
    exact ⟨nofun, fun hs => absurd hs.1 (hhelp h)⟩
  · rename_i h
    exact ⟨nofun, fun hs => absurd hs.1 (hhelp h)⟩
  · rename_i h
    exact ⟨nofun, fun hs => absurd hs.1 (hhelp h)⟩
  · rename_i h
    exact ⟨nofun, fun hs => absurd hs.1 (hhelp h)⟩
  · rename_i c rest hlong _ _ _ hshort h
    have hnames : ¬ NamesOption s.toList := by
      rw [NamesOption, h]
      rintro (⟨rest', h⟩ | ⟨⟨rest', h⟩, -⟩)
      · cases h
        exact hshort rfl
      · cases h
        exact hlong rfl
    rw [Except.ok.injEq, otherwise_eq_plain_iff, isOperand_iff_of_dash h, ← h, hself,
      and_iff_right hnames]
  · rename_i hdash
    have hoperand : IsOperand s := by
      by_cases hhead : s.toList.head? = some '-'
      · obtain ⟨rest, h⟩ := List.head?_eq_some_iff.mp hhead
        cases rest with
        | nil => exact .inr (.inl (String.toList_inj.mp h))
        | cons c rest => exact absurd h (hdash c rest)
      · exact .inl hhead
    rw [hself, Except.ok.injEq, Argument.plain.injEq, and_iff_right hoperand]
    exact eq_comm

end Argument

/-! ## Command lines -/

namespace Arguments

open Argument

variable {query path : String}

/-- Two dashes alone are the beginning of every long option. -/
theorem ne_separator_of_isOperand {s : String} (h : IsOperand s) : s ≠ "--" := by
  rintro rfl
  rcases h with hhead | hdash | ⟨hnames, -⟩
  · exact hhead rfl
  · exact absurd hdash (by decide)
  · exact hnames (.inr ⟨⟨[], rfl⟩, _, List.mem_cons_self, by decide⟩)

/-- What the last argument of a command line is. -/
def lastArgument (s : String) : Except UsageExit Argument :=
  if s = "--" then .ok .separator else ofText s

theorem classify_query (h : query ≠ "--") : classify [query, "--cards", path] = do
    let a ← ofText query
    let b ← lastArgument path
    return [a, .option .cards none, b] := by
  have hseparator : ¬ (query == "--") = true := by simpa using h
  have hcards : classify ["--cards", path] = do
      let b ← lastArgument path
      return [.option .cards none, b] := by
    have hoption : ofText "--cards" = .ok (.option .cards none) := rfl
    rw [classify, if_neg (by decide), hoption, classify, lastArgument]
    by_cases hpath : path = "--"
    · rw [if_pos (by simpa using hpath), if_pos hpath]
      rfl
    · rw [if_neg (by simpa using hpath), if_neg hpath]
      cases ofText path <;> rfl
  rw [classify, if_neg hseparator, hcards]
  cases ofText query with
  | error exit => rfl
  | ok a => cases lastArgument path <;> rfl

/-- The path behind its option has to be a plain argument. -/
theorem readFrom_cards {p p' : Progress} {b : Argument} :
    readFrom p [.option .cards none, b] = .ok p'
      ↔ ∃ value, b = .plain value ∧ p' = { p with cards := some (some value) } := by
  have htakes : Switch.cards.takesValue = true := rfl
  cases b with
  | plain value =>
    have hread : readFrom p [.option .cards none, .plain value]
        = .ok { p with cards := some (some value) } := by
      rw [readFrom, if_pos htakes, Progress.setValue]
      exact readFrom.eq_1 _
    rw [hread, Except.ok.injEq]
    constructor
    · rintro rfl
      exact ⟨value, rfl, rfl⟩
    · rintro ⟨value', hvalue, rfl⟩
      cases hvalue
      rfl
  | separator | option | cluster | unknown =>
    rw [readFrom, if_pos htakes]
    · constructor
      · intro h
        cases h
      · rintro ⟨value, h, -⟩
        cases h
    · simp

/-- An option that is set leaves the query as it is. -/
theorem Progress.query_of_set {p p' : Progress} {s : Switch} (h : p.set s = .ok p') :
    p'.query = p.query := by
  cases s <;> cases h <;> rfl

theorem Progress.query_of_setAttached {p p' : Progress} {s : Switch} {value : String}
    (h : p.setAttached s value = .ok p') : p'.query = p.query := by
  unfold setAttached at h
  split at h
  · cases s with
    | cards => cases h; rfl
    | maxResults =>
      rw [setValue] at h
      split at h <;> cases h
      rfl
    | help | explain | labels => cases h
  · cases s <;> cases h <;> rfl

/-- **A query and a path are read only from plain arguments.** -/
theorem plain_of_readFrom {a b : Argument} {p : Progress}
    (h : readFrom start [a, .option .cards none, b] = .ok p) (hquery : p.query.isSome = true) :
    ∃ s value, a = .plain s ∧ b = .plain value
      ∧ p = { start with query := some s, cards := some (some value) } := by
  have hmissing {p' : Progress} (hread : readFrom p' [.option .cards none, b] = .ok p)
      (hnone : p'.query = none) : False := by
    obtain ⟨value, -, rfl⟩ := readFrom_cards.mp hread
    rw [hnone] at hquery
    cases hquery
  cases a with
  | plain s =>
    rw [readFrom] at h
    · obtain ⟨value, rfl, rfl⟩ := readFrom_cards.mp h
      exact ⟨s, value, rfl, rfl, rfl⟩
    · simp
  | separator =>
    rw [readFrom] at h
    · exact (hmissing h rfl).elim
    · simp
  | option s attached =>
    cases attached with
    | none =>
      rw [readFrom] at h
      · split at h
        · cases h
        · obtain ⟨p', hset, hread⟩ := bind_eq_ok_iff.mp h
          exact (hmissing hread (Progress.query_of_set hset)).elim
      · simp
    | some value =>
      rw [readFrom] at h
      split at h
      · obtain ⟨p', hset, hread⟩ := bind_eq_ok_iff.mp h
        exact (hmissing hread (Progress.query_of_setAttached hset)).elim
      · cases h
  | cluster letters =>
    rw [readFrom] at h
    cases h
  | unknown =>
    rw [readFrom] at h
    exact (hmissing h rfl).elim

theorem lastArgument_eq_plain_iff {value : String} :
    lastArgument path = .ok (.plain value) ↔ IsOperand path ∧ value = path := by
  rw [lastArgument]
  split
  · rename_i hseparator
    exact ⟨nofun, fun h => absurd hseparator (ne_separator_of_isOperand h.1)⟩
  · exact ofText_eq_plain_iff

/-- **A query and the path of a card file are read as such if both are operands.** -/
theorem parse_operands (hquery : IsOperand query) (hpath : IsOperand path) :
    parse [query, "--cards", path] = .ok ⟨query, some path, .unlimited, false, false⟩ := by
  have hclassify : classify [query, "--cards", path]
      = .ok [.plain query, .option .cards none, .plain path] := by
    rw [classify_query (ne_separator_of_isOperand hquery), ofText_eq_plain_iff.mpr ⟨hquery, rfl⟩,
      lastArgument_eq_plain_iff.mpr ⟨hpath, rfl⟩]
    rfl
  have hread : readFrom start [.plain query, .option .cards none, .plain path]
      = .ok { start with query := some query, cards := some (some path) } := by
    rw [readFrom]
    · exact readFrom_cards.mpr ⟨path, rfl, rfl⟩
    · simp
  rw [parse, hclassify]
  change (readFrom start _ >>= fun p => _) = _
  rw [hread]
  rfl

/-- **Nothing else is read as a query and a path.** -/
theorem operands_of_parse {args : Arguments}
    (h : parse [query, "--cards", path] = .ok args) : IsOperand query ∧ IsOperand path := by
  rw [parse] at h
  obtain ⟨arguments, hclassify, h⟩ := bind_eq_ok_iff.mp h
  obtain ⟨p, hread, h⟩ := bind_eq_ok_iff.mp h
  have hfound : p.query.isSome = true ∧ p.cards.isSome = true := by
    split at h
    · rename_i hquery hcards
      rw [hquery, hcards]
      exact ⟨rfl, rfl⟩
    · cases h
  by_cases hseparator : query = "--"
  · -- everything behind the separator is plain, so that there is no option
    rw [hseparator] at hclassify
    cases hclassify
    have hnone : p.cards = none := by
      simp only [List.map_cons, List.map_nil, readFrom, start, Option.isNone_none, if_true,
        Option.isNone_some, Bool.false_eq_true, if_false] at hread
      cases hread
      rfl
    rw [hnone] at hfound
    cases hfound.2
  · rw [classify_query hseparator] at hclassify
    obtain ⟨a, ha, hclassify⟩ := bind_eq_ok_iff.mp hclassify
    obtain ⟨b, hb, hclassify⟩ := bind_eq_ok_iff.mp hclassify
    cases hclassify
    obtain ⟨s, value, rfl, rfl, -⟩ := plain_of_readFrom hread hfound.1
    exact ⟨(ofText_eq_plain_iff.mp ha).1, (lastArgument_eq_plain_iff.mp hb).1⟩

end Arguments

end CardQuery
