import Mathlib.Data.List.Forall2
import RecordProjection.Proofs.Projection.Selection

/-! Independence of the records of a list. What two lists come to together is what each of them
comes to alone: the outcomes of both if both are expanded, else all that there is to report in
either. A record that is not to be expanded is kept as it stands, and every other one is expanded by
itself. -/

namespace RecordProjection

/-- Whether a selection asks for a record to be expanded. The empty selection asks for all records,
but without directives there is nothing to expand. -/
def Record.IsWanted (selected : List String) (record : Record) : Prop :=
  (selected = [] ∨ record.name ∈ selected) ∧ record.usesDirectives = true

instance (selected : List String) (record : Record) : Decidable (record.IsWanted selected) :=
  inferInstanceAs (Decidable (_ ∧ _))

def Record.expansion (record : Record) : Expansion where
  parsed := record.parse
  diagnostics := record.diagnostics
  definitions := if record.diagnostics.isEmpty then record.parse.allDefinitions else []

def reportedIn (selected : List String) (records : List Record) : List Diagnostic :=
  (records.filter fun record => record.IsWanted selected).flatMap fun record =>
    record.expansion.diagnostics

structure Record.Yields (selected : List String) (record : Record) (outcome : Outcome) : Prop where
  name : outcome.name = record.name
  expanded : outcome.expanded = true ↔ record.IsWanted selected
  definitions : record.IsWanted selected →
    record.expansion.diagnostics = [] ∧ outcome.definitions = record.expansion.definitions
  kept : ¬ record.IsWanted selected → outcome.definitions = [record.unchanged]

theorem isSelected_iff (selected : List String) (record : Record) :
    isSelected selected record = true ↔ record.IsWanted selected := by
  simp [isSelected, Record.IsWanted]

theorem reportedIn_append (selected : List String) (first second : List Record) :
    reportedIn selected (first ++ second) =
      reportedIn selected first ++ reportedIn selected second := by
  rw [reportedIn, List.filter_append, List.flatMap_append]
  rfl

theorem reportedIn_singleton (selected : List String) (record : Record) :
    reportedIn selected [record] = record.objections selected := by
  unfold reportedIn Record.objections
  by_cases wanted : record.IsWanted selected
  · rw [if_pos ((isSelected_iff selected record).2 wanted)]
    simp [wanted, Record.expansion]
  · rw [if_neg (mt (isSelected_iff selected record).1 wanted)]
    simp [wanted]

theorem flatMap_objections (selected : List String) (records : List Record) :
    records.flatMap (Record.objections selected) = reportedIn selected records := by
  induction records with
  | nil => rfl
  | cons first rest ih =>
    rw [List.flatMap_cons, ih, ← reportedIn_singleton, ← reportedIn_append, List.singleton_append]

theorem expandRecords_of_reported {selected : List String} {records : List Record}
    (reported : reportedIn selected records ≠ []) :
    expandRecords records selected = .error (.rejected (reportedIn selected records) none) := by
  rw [expandRecords_eq, flatMap_objections]
  cases found : reportedIn selected records with
  | nil => exact absurd found reported
  | cons => rfl

theorem expandRecords_of_quiet {selected : List String} {records : List Record}
    (quiet : reportedIn selected records = []) :
    expandRecords records selected = .ok (records.map (Record.outcome selected)) := by
  rw [expandRecords_eq, flatMap_objections, quiet]

theorem quiet_of_expandRecords {selected : List String} {records : List Record}
    {outcomes : List Outcome} (expanded : expandRecords records selected = .ok outcomes) :
    reportedIn selected records = [] ∧ outcomes = records.map (Record.outcome selected) := by
  by_cases quiet : reportedIn selected records = []
  · rw [expandRecords_of_quiet quiet, Except.ok.injEq] at expanded
    exact ⟨quiet, expanded.symm⟩
  · rw [expandRecords_of_reported quiet] at expanded
    cases expanded

theorem yields_outcome {selected : List String} {record : Record}
    (accepted : record.IsAccepted selected) : record.Yields selected (record.outcome selected) where
  name := rfl
  expanded := isSelected_iff selected record
  definitions := by
    intro wanted
    have selects := (isSelected_iff selected record).2 wanted
    have clean := accepted selects
    simp [Record.outcome, Record.emitted, Record.expansion, selects, clean]
  kept := fun unwanted => if_neg (mt (isSelected_iff selected record).1 unwanted)

/-- Two lists are expanded together if and only if each of them is by itself, with the outcomes of
one after the other, and all that there is to report in both is collected otherwise. -/
theorem expandRecords_append (first second : List Record) (selected : List String) :
    (∀ record : Record, record.expand = .ok record.expansion) ∧
      expandRecords (first ++ second) selected =
        (match expandRecords first selected, expandRecords second selected with
        | .ok ones, .ok others => .ok (ones ++ others)
        | _, _ =>
          .error (.rejected (reportedIn selected first ++ reportedIn selected second) none)) ∧
      ∀ outcomes, expandRecords (first ++ second) selected = .ok outcomes →
        List.Forall₂ (Record.Yields selected) (first ++ second) outcomes := by
  refine ⟨expand_eq, ?_, fun outcomes expanded => ?_⟩
  · by_cases quiet : reportedIn selected (first ++ second) = []
    · have both := quiet
      rw [reportedIn_append, List.append_eq_nil_iff] at both
      rw [expandRecords_of_quiet quiet, expandRecords_of_quiet both.1,
        expandRecords_of_quiet both.2, List.map_append]
    · rw [expandRecords_of_reported quiet, reportedIn_append]
      rw [reportedIn_append, List.append_eq_nil_iff, not_and_or] at quiet
      rcases quiet with reported | reported
      · rw [expandRecords_of_reported reported]
      · rw [expandRecords_of_reported reported]
        cases expandRecords first selected <;> rfl
  · obtain ⟨quiet, rfl⟩ := quiet_of_expandRecords expanded
    rw [← flatMap_objections, flatMap_objections_eq_nil_iff] at quiet
    exact List.forall₂_map_right_iff.2 (List.forall₂_same.2 fun record member =>
      yields_outcome (quiet record member))

end RecordProjection
