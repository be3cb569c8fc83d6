import RecordProjection.Proofs.Projection.Independence
import RecordProjection.Proofs.Report.Detail

/-! Reports and the generated list agree. The detail of a record holds what the record adds to any
list that is generated, its diagnostics or its definitions, and the summaries of a list describe its
outcomes one by one. -/

namespace RecordProjection
open Directive

/-- A detail that tells what becomes of a record in any list of which all is to be expanded. -/
structure RecordDetail.Agrees (detail : RecordDetail) (record : Record) : Prop where
  /-- Either something is wrong or something is emitted. -/
  exclusive : detail.diagnostics ≠ [] ↔ detail.definitions = []
  refused : ∀ before after,
    reportedIn [] before ++ detail.diagnostics ++ reportedIn [] after ≠ [] →
      expandRecords (before ++ record :: after) [] =
        .error (.rejected (reportedIn [] before ++ detail.diagnostics ++ reportedIn [] after) none)
  expanded : ∀ before after,
    reportedIn [] before ++ detail.diagnostics ++ reportedIn [] after = [] →
      ∃ ones others, ones.length = before.length ∧
        expandRecords (before ++ record :: after) [] =
          .ok (ones ++ ⟨record.name, record.usesDirectives, detail.definitions⟩ :: others)

structure RecordSummary.Describes (summary : RecordSummary) (outcome : Outcome) : Prop where
  name : summary.name = outcome.name
  fields : ∃ first rest, outcome.definitions = first :: rest ∧
    summary.fieldCount = first.fields.length
  projections : summary.projections = outcome.projections
  others : outcome.projections = outcome.definitions.tail.map Definition.name
  expanded : summary.usesDirectives = outcome.expanded

theorem isSelected_all (record : Record) : isSelected [] record = record.usesDirectives := by
  simp [isSelected]

theorem emitted_ne_nil (selected : List String) (record : Record) :
    record.emitted selected ≠ [] := by
  unfold Record.emitted
  split
  · exact List.cons_ne_nil _ _
  · exact List.cons_ne_nil _ _

theorem reportedIn_around (record : Record) (before after : List Record) :
    reportedIn [] (before ++ record :: after) =
      reportedIn [] before ++ record.shown.diagnostics ++ reportedIn [] after := by
  rw [reportedIn_append, ← List.singleton_append, reportedIn_append, reportedIn_singleton,
    List.append_assoc]
  rfl

theorem outcome_of_quiet {record : Record} (quiet : record.shown.diagnostics = []) :
    record.outcome [] = ⟨record.name, record.usesDirectives, record.shown.definitions⟩ := by
  change record.objections [] = [] at quiet
  rw [Record.outcome, isSelected_all, Record.shown, if_pos quiet]

theorem agrees_shown (record : Record) : record.shown.Agrees record where
  exclusive := by
    by_cases quiet : record.objections [] = []
    · simp [Record.shown, quiet, emitted_ne_nil]
    · simp [Record.shown, quiet]
  refused := by
    intro before after reported
    rw [← reportedIn_around] at reported ⊢
    exact expandRecords_of_reported reported
  expanded := by
    intro before after quiet
    have own := (List.append_eq_nil_iff.1 (List.append_eq_nil_iff.1 quiet).1).2
    rw [← reportedIn_around] at quiet
    refine ⟨before.map (Record.outcome []), after.map (Record.outcome []), List.length_map _, ?_⟩
    rw [expandRecords_of_quiet quiet, List.map_append, List.map_cons, outcome_of_quiet own]

theorem names_projections (parsed : ParsedRecord) :
    parsed.projections.map ProjectionSpec.name = parsed.declared.elim [] Declared.projections := by
  unfold ParsedRecord.projections
  cases parsed.declared with
  | none => rfl
  | some declared =>
    dsimp only
    rw [List.map_map]
    exact List.map_id _

theorem declared_of_undirected {record : Record} (undirected : record.usesDirectives = false) :
    record.parse.declared = none := by
  refine declared_eq_none ?_
  rintro ⟨⟨note, member, kind⟩, -⟩
  have own := (Bool.or_eq_false_iff.1 undirected).1
  have directive : isDirective note = true := by rw [isDirective, kind, Option.isSome_some]
  rw [List.any_eq_true.2 ⟨note, member, directive⟩] at own
  cases own

theorem describes_outcome (record : Record) : record.summary.Describes (record.outcome []) where
  name := rfl
  fields := by
    unfold Record.outcome Record.emitted
    dsimp only
    split
    · refine ⟨_, _, rfl, ?_⟩
      change (record.fields.length : Int) = (record.parse.fields.map _).length
      rw [List.length_map, parse_fields, List.length_map, List.length_zipIdx]
    · exact ⟨_, _, rfl, rfl⟩
  projections := by
    unfold Record.summary Outcome.projections Record.outcome Record.emitted
    cases directed : record.usesDirectives with
    | false => simp [isSelected_all, directed, declared_of_undirected directed]
    | true =>
      simp only [isSelected_all, directed, if_true, ParsedRecord.allDefinitions, List.drop_one,
        List.tail_cons, List.map_map, ← names_projections]
      rfl
  others := by
    unfold Outcome.projections Record.outcome Record.emitted
    cases selects : isSelected [] record <;> simp
  expanded := (isSelected_all record).symm

/-- The first record with a name is shown with what it adds to the list where it is generated, and
the summaries of a list that is expanded describe its outcomes in order. -/
theorem reports_agree (records : List Record) :
    (∀ name ∈ records.map Record.name, ∃ earlier record later detail,
      records = earlier ++ record :: later ∧ record.name = name ∧
        (∀ other ∈ earlier, other.name ≠ name) ∧
        detailOf? records name = .ok (some detail) ∧ detail.Agrees record) ∧
      ∀ outcomes, expandRecords records [] = .ok outcomes →
        List.Forall₂ RecordSummary.Describes (records.map Record.summary) outcomes := by
  constructor
  · intro name listed
    obtain ⟨earlier, record, later, split, named, others, looked⟩ :=
      detailOf?_of_present (List.mem_map.1 listed)
    exact ⟨earlier, record, later, record.shown, split, named, others, looked, agrees_shown record⟩
  · intro outcomes expanded
    obtain ⟨-, rfl⟩ := quiet_of_expandRecords expanded
    rw [List.forall₂_map_left_iff, List.forall₂_map_right_iff, List.forall₂_same]
    exact fun record _ => describes_outcome record

end RecordProjection
