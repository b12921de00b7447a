import CardQuery.Proofs.Arguments
import CardQuery.Proofs.Report

/-!
# Proofs/Command — which searches a command line can ask for

* `command_runs_search` — a command line of a query and a card file runs the search for just that
  query if both are operands, and otherwise nothing is run.
* `negatedTerm_not_run` — so not every query can be asked for.
-/

namespace CardQuery

open Query

namespace Report

/-- A run for a query that is decided for all cards prints the names of those that it hits. -/
theorem run_of_decided {query path text : String} {q : Query} {cards : List Card}
    (hparse : parse query = .ok q) (hcards : loadCards (some path) (some text) = .ok cards)
    (hdecided : ∀ c ∈ cards, Succeeds (q.matches c)) :
    run ⟨query, some path, .unlimited, false, false⟩ (some text)
      = ⟨(cards.filter q.hits).map (·.name.text), [], .ok 0⟩ := by
  have hfound : matching q none 0 cards = .ok (cards.filter q.hits) := matching_eq hdecided none 0
  have hprints : Prints false (.ok (cards.filter q.hits))
      (listing q false .unlimited 0 cards) := hfound ▸ listing_prints q false none 0 cards
  have hlisting : listing q false .unlimited 0 cards
      = ((cards.filter q.hits).map (·.name.text), .ok 0) := hprints
  rw [run]
  dsimp only
  rw [hparse]
  dsimp only
  rw [hcards]
  dsimp only
  rw [hlisting]
  rfl

end Report

open Report

/-- **What a command line with a query and a card file does.**  Let the query be accepted, and the
file hold an array of records that give cards for which it is decided.  If the query and the path
are operands, the run is for just that query, prints the names of the cards that it hits and ends
well.  Otherwise the command ends with its usage, and there is no run. -/
theorem command_runs_search {query path text : String} {q : Query} {records : List Json}
    (hparse : parse query = .ok q) (htext : Json.load? text = some (.array records))
    (hrecords : ∀ record ∈ records, ∃ c, Card.ofRecord record = .ok c ∧ Succeeds (q.matches c)) :
    (Argument.IsOperand query ∧ Argument.IsOperand path → ∃ args cards,
        Arguments.parse [query, "--cards", path] = .ok args ∧ args.query = query
          ∧ loadCards args.cards (some text) = .ok cards
          ∧ run args (some text) = ⟨(cards.filter q.hits).map (·.name.text), [], .ok 0⟩)
      ∧ (¬ (Argument.IsOperand query ∧ Argument.IsOperand path) → ∃ exit,
        Arguments.parse [query, "--cards", path] = .error exit) := by
  constructor
  · rintro ⟨hquery, hpath⟩
    have hbuilt : ∀ record ∈ records, Succeeds (Card.ofRecord record) := by
      intro record hrecord
      obtain ⟨c, hc, -⟩ := hrecords record hrecord
      exact ⟨c, hc⟩
    obtain ⟨cards, hcards, hof⟩ := loadCards_records htext hbuilt path
    have hdecided : ∀ c ∈ cards, Succeeds (q.matches c) := by
      intro c hc
      obtain ⟨record, hrecord, hcard⟩ := hof c hc
      obtain ⟨c', hcard', hmatches⟩ := hrecords record hrecord
      cases hcard.symm.trans hcard'
      exact hmatches
    exact ⟨_, cards, Arguments.parse_operands hquery hpath, rfl, hcards,
      run_of_decided hparse hcards hdecided⟩
  · intro hnot
    cases hargs : Arguments.parse [query, "--cards", path] with
    | error exit => exact ⟨exit, rfl⟩
    | ok args => exact absurd (Arguments.operands_of_parse hargs) hnot

/-- A negated query with a space in it is run. -/
theorem threeRecords_searched :
    ∃ args cards q, Arguments.parse ["-angel or ring", "--cards", "cards.json"] = .ok args
      ∧ args.query = "-angel or ring" ∧ parse "-angel or ring" = .ok q
      ∧ loadCards args.cards (some threeRecords) = .ok cards
      ∧ run args (some threeRecords) = ⟨(cards.filter q.hits).map (·.name.text), [], .ok 0⟩
      ∧ (cards.filter q.hits).map (·.name.text) = ["Sol Ring"] := by
  have hcheck : (parse "-angel or ring").toOption.any (decidesFile · threeRecords) = true := by
    decide +kernel
  have hlines : (run ⟨"-angel or ring", some "cards.json", .unlimited, false, false⟩
      (some threeRecords)).lines = ["Sol Ring"] := by decide +kernel
  obtain ⟨q, hq, hdecides⟩ := (Option.any_eq_true ..).mp hcheck
  have hparse := eq_ok_of_toOption hq
  obtain ⟨records, htext, hrecords⟩ := exists_records_of_decidesFile hdecides
  have hquery : Argument.IsOperand "-angel or ring" := by decide
  have hpath : Argument.IsOperand "cards.json" := by decide
  obtain ⟨args, cards, hargs, hself, hcards, hrun⟩ :=
    (command_runs_search hparse htext hrecords).1 ⟨hquery, hpath⟩
  refine ⟨args, cards, q, hargs, hself, hparse, hcards, hrun, ?_⟩
  cases hargs.symm.trans (Arguments.parse_operands hquery hpath)
  rw [← hlines]
  exact (congrArg lines hrun).symm

/-- **Not every query can be asked for**: a negated term is taken for an option. -/
theorem negatedTerm_not_run :
    (∃ q, parse "-t:x" = .ok q) ∧ Json.load? "[]" = some (.array [])
      ∧ ∀ path, ¬ ∃ args, Arguments.parse ["-t:x", "--cards", path] = .ok args := by
  refine ⟨?_, rfl, ?_⟩
  · have hok : (parse "-t:x").toBool = true := by decide +kernel
    cases hparse : parse "-t:x" with
    | error f =>
      rw [hparse] at hok
      cases hok
    | ok q => exact ⟨q, rfl⟩
  · rintro path ⟨args, hargs⟩
    have hnot : ¬ Argument.IsOperand "-t:x" := by decide
    exact hnot (Arguments.operands_of_parse hargs).1

end CardQuery
