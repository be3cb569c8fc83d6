import RecordProjection.Proofs.Projection.Emission
import RecordProjection.Proofs.Reading

/-! Expansion of a list of records, record by record. What becomes of a record depends on it and on
the selection alone; the list is refused if there is something to report for one of the selected
records, and then everything that there is to report is collected in order. -/

namespace RecordProjection
open Directive

namespace Record

def emitted (selected : List String) (record : Record) : List Definition :=
  if isSelected selected record then record.parse.allDefinitions else [record.unchanged]

def objections (selected : List String) (record : Record) : List Diagnostic :=
  if isSelected selected record then record.diagnostics else []

def outcome (selected : List String) (record : Record) : Outcome :=
  ⟨record.name, isSelected selected record, record.emitted selected⟩

def IsAccepted (selected : List String) (record : Record) : Prop :=
  isSelected selected record = true → record.diagnostics = []

end Record

theorem objections_eq_nil_iff (selected : List String) (record : Record) :
    record.objections selected = [] ↔ record.IsAccepted selected := by
  unfold Record.objections Record.IsAccepted
  split <;> simp_all

theorem flatMap_objections_eq_nil_iff (selected : List String) (records : List Record) :
    records.flatMap (Record.objections selected) = [] ↔
      ∀ record ∈ records, record.IsAccepted selected := by
  rw [List.flatMap_eq_nil_iff]
  exact forall₂_congr fun record _ => objections_eq_nil_iff selected record

instance (selected : List String) (record : Record) : Decidable (record.IsAccepted selected) :=
  decidable_of_iff _ (objections_eq_nil_iff selected record)

theorem outcomeOf_eq (selected : List String) (record : Record) :
    outcomeOf selected record = .ok (
      if record.objections selected = [] then record.outcome selected
      else ⟨record.name, true, []⟩, record.objections selected) := by
  unfold outcomeOf Record.outcome Record.objections Record.emitted
  by_cases selects : isSelected selected record = true
  · rw [expand_eq]
    cases found : record.diagnostics <;> simp [selects, Except.map]
  · simp [selects]

theorem expandRecords_eq (records : List Record) (selected : List String) :
    expandRecords records selected =
      match records.flatMap (Record.objections selected) with
      | [] => .ok (records.map (Record.outcome selected))
      | diagnostics => .error (.rejected diagnostics none) := by
  have each : (records.map id).mapM (outcomeOf selected) = _ :=
    mapM_map_of_ok id _ fun record _ => outcomeOf_eq selected record
  rw [List.map_id] at each
  unfold expandRecords
  rw [each]
  dsimp only
  rw [List.flatMap_map]
  change (match records.flatMap (Record.objections selected) with
    | [] => _
    | diagnostics => _) = _
  cases found : records.flatMap (Record.objections selected) with
  | cons first rest => rfl
  | nil =>
    rw [List.flatMap_eq_nil_iff] at found
    dsimp only
    rw [List.map_map]
    refine congrArg Except.ok (List.map_congr_left fun record member => ?_)
    exact if_pos (found record member)

def combined (first second : List String) : List String :=
  if first.isEmpty || second.isEmpty then [] else first ++ second

theorem isSelected_combined (first second : List String) (record : Record) :
    isSelected (combined first second) record =
      (isSelected first record || isSelected second record) := by
  unfold combined isSelected
  cases first with
  | nil => cases record.usesDirectives <;> simp
  | cons name rest =>
    cases second with
    | nil => cases record.usesDirectives <;> simp
    | cons other more => simp [Bool.and_or_distrib_right, Bool.or_assoc]

theorem undirected_of_mem {record : Record} {definition : Definition}
    (member : definition ∈ record.parse.allDefinitions) :
    ∀ note ∈ definition.allAnnotations, isDirective note = false :=
  (sound_of_mem member).undirected

end RecordProjection
