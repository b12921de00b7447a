import CardQuery.Proofs.Filtering
import CardQuery.Proofs.Grammar.Faulting
import CardQuery.Report

/-!
# Proofs/Report — the command prints what a search finds

* `listing_prints` — listing cards and searching them are the same loop: where the search finds cards
  their lines are printed, and where it ends in a fault so does the listing.
* `run_prints_search` — so a run prints the lines of the cards that the search finds, reports a text
  that is no query whatever the card file holds, and ends without a report only if parsing does.
-/

namespace CardQuery

open Query

/-- The limit that a bound stands for. -/
def Limit.ofBound : Option Int → Limit
  | none => .unlimited
  | some n => .count n

/-- A limit is reached as a search sees it. -/
theorem Limit.reached_ofBound (bound : Option Int) (found : Nat) :
    (Limit.ofBound bound).reached (found + 1) = .ok (bound.any (· ≤ (found + 1 : Int))) := by
  cases bound with
  | none => rfl
  | some n => simp [Limit.ofBound, Limit.reached]

namespace Report

/-! ## Listing -/

/-- **What is printed for an outcome of a search**: a line for each card that it finds, or some lines
and its fault. -/
def Prints (labels : Bool) : Except Fault (List Card) → List String × Except Fault Nat → Prop
  | .ok found, printed => printed = (found.map (cardLine labels), .ok 0)
  | .error f, printed => printed.2 = .error f

section Listing

variable {q : Query} {labels : Bool} {bound : Option Int} {found : Nat} {c : Card}
  {rest : List Card}

theorem listing_of_miss {limit : Limit} (h : q.matches c = .ok false) :
    listing q labels limit found (c :: rest) = listing q labels limit found rest := by
  rw [listing, h]

theorem listing_of_last (h : q.matches c = .ok true)
    (hlimit : bound.any (· ≤ (found + 1 : Int)) = true) :
    listing q labels (.ofBound bound) found (c :: rest) = ([cardLine labels c], .ok 0) := by
  rw [listing, h]
  dsimp only
  rw [Limit.reached_ofBound, hlimit]

theorem listing_of_hit (h : q.matches c = .ok true)
    (hlimit : ¬ bound.any (· ≤ (found + 1 : Int)) = true) :
    listing q labels (.ofBound bound) found (c :: rest) =
      (cardLine labels c :: (listing q labels (.ofBound bound) (found + 1) rest).1,
        (listing q labels (.ofBound bound) (found + 1) rest).2) := by
  rw [listing, h]
  dsimp only
  rw [Limit.reached_ofBound, Bool.not_eq_true _ |>.mp hlimit]

/-- One more card is found, and its line is printed before the others. -/
theorem Prints.cons {x : Except Fault (List Card)} {printed : List String × Except Fault Nat}
    (h : Prints labels x printed) :
    Prints labels (x.map (c :: ·)) (cardLine labels c :: printed.1, printed.2) := by
  cases x with
  | error f => exact h
  | ok ms =>
    obtain rfl : printed = (ms.map (cardLine labels), .ok 0) := h
    rfl

end Listing

/-- **Listing cards and searching them are the same loop.** -/
theorem listing_prints (q : Query) (labels : Bool) (bound : Option Int) (found : Nat)
    (cards : List Card) :
    Prints labels (matching q bound found cards) (listing q labels (.ofBound bound) found cards) := by
  induction cards generalizing found with
  | nil => rfl
  | cons c cards ih =>
    cases h : q.matches c with
    | error f =>
      rw [matching, listing, h]
      rfl
    | ok b =>
      cases b with
      | false =>
        rw [matching_of_miss h, listing_of_miss h]
        exact ih found
      | true =>
        by_cases hlimit : bound.any (· ≤ (found + 1 : Int)) = true
        · rw [matching_of_last h hlimit, listing_of_last h hlimit]
          rfl
        · rw [matching_of_hit h hlimit, listing_of_hit h hlimit]
          exact (ih (found + 1)).cons

/-! ## Card files -/

/-- A file of records that all give cards is loaded. -/
theorem loadCards_records {text : String} {records : List Json}
    (htext : Json.load? text = some (.array records))
    (h : ∀ record ∈ records, Succeeds (Card.ofRecord record)) (path : String) :
    ∃ cards, loadCards (some path) (some text) = .ok cards
      ∧ ∀ c ∈ cards, ∃ record ∈ records, Card.ofRecord record = .ok c := by
  have hrecords : EndsIn (records.mapM Card.ofRecord) (∃ record ∈ records, False)
      fun cards => ∀ c ∈ cards, ∃ record ∈ records, Card.ofRecord record = .ok c := by
    refine mapM_endsIn fun record hrecord => ⟨False.elim, fun _ => ?_⟩
    obtain ⟨c, hc⟩ := h record hrecord
    exact ⟨c, hc, record, hrecord, hc⟩
  obtain ⟨cards, hcards, hof⟩ := hrecords.2 (by simp)
  refine ⟨cards, ?_, hof⟩
  rw [← hcards, loadCards, htext]
  rfl

/-! ## Runs -/

/-- **What a run prints.**  For a query, the description if it is asked for and then a line for each
card that the search of the loaded cards finds.  For a text that is reported, the report and nothing
else, whatever file there is.  If parsing fails without a report, so does the run, before it prints
anything. -/
theorem run_prints_search (query : String) (bound : Option Int) (explain labels : Bool) :
    (∀ q, parse query = .ok q → ∀ path text records,
        Json.load? text = some (.array records) →
        (∀ record ∈ records, ∃ c, Card.ofRecord record = .ok c ∧ Succeeds (q.matches c)) →
        ∃ cards found, loadCards (some path) (some text) = .ok cards
          ∧ filterCards cards query bound = .ok found
          ∧ run ⟨query, some path, .ofBound bound, explain, labels⟩ (some text)
            = ⟨(if explain then ["Searching for cards where " ++ q.explain] else [])
                ++ found.map (cardLine labels), [], .ok 0⟩)
      ∧ (∀ r, parse query = .error (.rejected r) → ∀ path file,
          run ⟨query, path, .ofBound bound, explain, labels⟩ file
            = ⟨[], ["error: " ++ r.problem.message, r.diagnostic.pointer], .ok 2⟩)
      ∧ (∀ f, FailsUnreported query f → ∀ path file,
          run ⟨query, path, .ofBound bound, explain, labels⟩ file = ⟨[], [], .error f⟩)
      ∧ ((∃ q, parse query = .ok q) ∨ (∃ r, parse query = .error (.rejected r))
          ∨ ∃ f, FailsUnreported query f) := by
  refine ⟨?_, ?_, ?_, ?_⟩
  · intro q hparse path text records htext hrecords
    have hbuilt : ∀ record ∈ records, Succeeds (Card.ofRecord record) := by
      intro record hrecord
      obtain ⟨c, hc, -⟩ := hrecords record hrecord
      exact ⟨c, hc⟩
    obtain ⟨cards, hcards, hof⟩ := loadCards_records htext hbuilt path
    have hdecided : ∀ c ∈ cards, Succeeds (q.matches c) := by
      intro c hc
      obtain ⟨record, hrecord, hcard⟩ := hof c hc
      obtain ⟨c', hcard', hmatches⟩ := hrecords record hrecord
      rw [hcard] at hcard'
      cases hcard'
      exact hmatches
    have hfound := filterCards_eq hparse hdecided bound
    refine ⟨cards, _, hcards, hfound, ?_⟩
    have hprints := listing_prints q labels bound 0 cards
    rw [filterCards, hparse, ok_bind] at hfound
    rw [hfound, Prints] at hprints
    rw [run]
    dsimp only
    rw [hparse]
    dsimp only
    rw [hcards]
    dsimp only
    rw [hprints]
  · intro r hparse path file
    rw [run]
    dsimp only
    rw [hparse]
  · intro f hfails path file
    obtain ⟨hparse, hunreported⟩ := parse_faults_iff.mpr hfails
    rw [run]
    dsimp only
    rw [hparse]
    cases f with
    | rejected r => exact absurd rfl (hunreported r)
    | _ => rfl
  · cases hparse : parse query with
    | ok q => exact .inl ⟨q, rfl⟩
    | error f =>
      refine .inr ?_
      by_cases hreport : ∃ r, f = .rejected r
      · obtain ⟨r, rfl⟩ := hreport
        exact .inl ⟨r, rfl⟩
      · exact .inr ⟨f, parse_faults_iff.mp ⟨hparse, fun r hr => hreport ⟨r, hr⟩⟩⟩

/-- Whether a record gives a card for which a query is decided. -/
def decidesRecord (q : Query) (record : Json) : Bool :=
  match Card.ofRecord record with
  | .ok c => (q.matches c).toBool
  | .error _ => false

theorem exists_card_of_decidesRecord {q : Query} {record : Json}
    (h : decidesRecord q record = true) :
    ∃ c, Card.ofRecord record = .ok c ∧ Succeeds (q.matches c) := by
  rw [decidesRecord] at h
  cases hcard : Card.ofRecord record with
  | error f =>
    rw [hcard] at h
    cases h
  | ok c =>
    refine ⟨c, rfl, ?_⟩
    rw [hcard] at h
    change (q.matches c).toBool = true at h
    cases hmatches : q.matches c with
    | error f =>
      rw [hmatches] at h
      cases h
    | ok b => exact succeeds_ok b

/-- Whether a card file has an array of records that give cards for which a query is decided. -/
def decidesFile (q : Query) (text : String) : Bool :=
  match Json.load? text with
  | some (.array records) => records.all (decidesRecord q)
  | _ => false

theorem exists_records_of_decidesFile {q : Query} {text : String} (h : decidesFile q text = true) :
    ∃ records, Json.load? text = some (.array records)
      ∧ ∀ record ∈ records, ∃ c, Card.ofRecord record = .ok c ∧ Succeeds (q.matches c) := by
  rw [decidesFile] at h
  split at h
  · rename_i records htext
    exact ⟨records, htext, fun record hrecord =>
      exists_card_of_decidesRecord (List.all_eq_true.mp h record hrecord)⟩
  · cases h

/-- A card file with three records, of which two have a piece of their names in common. -/
def threeRecords : String :=
  "[\x7b\"name\":\"Serra Angel\",\"color_identity\":[\"W\",\"U\"]\x7d,\x7b\"name\":\"Sol Ring\"\x7d,"
    ++ "\x7b\"name\":\"Guardian Angel\"\x7d]"

/-- All cards with a description and labels, and a text that is reported although there is no file. -/
theorem threeRecords_printed :
    (∃ q cards found, parse "angel" = .ok q
      ∧ loadCards (some "cards.json") (some threeRecords) = .ok cards
      ∧ filterCards cards "angel" (some 2) = .ok found
      ∧ run ⟨"angel", some "cards.json", .count 2, true, true⟩ (some threeRecords)
        = ⟨["Searching for cards where " ++ q.explain] ++ found.map (cardLine true), [], .ok 0⟩
      ∧ ["Searching for cards where " ++ q.explain] ++ found.map (cardLine true)
        = ["Searching for cards where the name includes \"angel\"", "Serra Angel\tAzorius (WU)",
          "Guardian Angel\tColorless"])
      ∧ ∃ r, parse "(angel" = .error (.rejected r)
        ∧ run ⟨"(angel", some "cards.json", .unlimited, true, false⟩ none
          = ⟨[], ["error: " ++ r.problem.message, r.diagnostic.pointer], .ok 2⟩ := by
  constructor
  · have hcheck : ((parse "angel").toOption.any (decidesFile · threeRecords)) = true := by
      decide +kernel
    have hlines : (run ⟨"angel", some "cards.json", .count 2, true, true⟩ (some threeRecords)).lines
        = ["Searching for cards where the name includes \"angel\"", "Serra Angel\tAzorius (WU)",
          "Guardian Angel\tColorless"] := by decide +kernel
    obtain ⟨q, hq, hdecides⟩ := (Option.any_eq_true ..).mp hcheck
    have hparse := eq_ok_of_toOption hq
    obtain ⟨records, htext, hrecords⟩ := exists_records_of_decidesFile hdecides
    obtain ⟨hprinted, -⟩ := run_prints_search "angel" (some 2) true true
    obtain ⟨cards, found, hcards, hfound, hrun⟩ :=
      hprinted q hparse "cards.json" threeRecords records htext hrecords
    refine ⟨q, cards, found, hparse, hcards, hfound, hrun, ?_⟩
    rw [← hlines]
    exact (congrArg lines hrun).symm
  · have hnoQuery : (parse "(angel").toBool = false := by decide +kernel
    have hreport : (run ⟨"(angel", some "cards.json", .unlimited, true, false⟩ none).errors ≠ [] := by
      decide +kernel
    obtain ⟨-, hreported, hunreported, hkinds⟩ := run_prints_search "(angel" none true false
    rcases hkinds with ⟨q, hq⟩ | ⟨r, hr⟩ | ⟨f, hf⟩
    · rw [hq] at hnoQuery
      cases hnoQuery
    · exact ⟨r, hr, hreported r hr (some "cards.json") none⟩
    · have hrun := hunreported f hf (some "cards.json") none
      exact absurd (congrArg errors hrun) hreport

/-- **A text that is no query may end a run without a report**: a count without room in a pattern. -/
theorem countTooLarge_ends_run :
    (¬ ∃ q, parse "/a\x7b99999999999\x7d/" = .ok q) ∧ ∀ path file,
      (run ⟨"/a\x7b99999999999\x7d/", path, .unlimited, false, false⟩ file).ending ≠ .ok 2 := by
  have hfault : (match parse "/a\x7b99999999999\x7d/" with
      | .error f => some f
      | .ok _ => none) = some .tooLarge := by decide +kernel
  cases hparse : parse "/a\x7b99999999999\x7d/" with
  | ok q =>
    rw [hparse] at hfault
    cases hfault
  | error f =>
    rw [hparse] at hfault
    obtain rfl : f = .tooLarge := Option.some.inj hfault
    refine ⟨nofun, fun path file => ?_⟩
    rw [run]
    dsimp only
    rw [hparse]
    nofun

end Report

end CardQuery
