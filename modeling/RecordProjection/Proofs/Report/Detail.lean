import RecordProjection.Proofs.Projection.Selection
import RecordProjection.Report.Detail

/-! Details of records. The first record with a name is the one that is shown, as it comes out of a
list of which all is to be expanded: with its diagnostics, or with its definitions if there are
none. -/

namespace RecordProjection
variable {records : List Record} {name : String}

def Record.shown (record : Record) : RecordDetail where
  summary := record.summary
  definitions := if record.objections [] = [] then record.emitted [] else []
  diagnostics := record.objections []

theorem detail_eq (record : Record) : record.detail = .ok record.shown := by
  unfold Record.detail Record.shown Record.objections Record.emitted
  by_cases directed : record.usesDirectives = true
  · have selects : isSelected [] record = true := by simpa [isSelected] using directed
    rw [if_pos directed, expand_eq, if_pos selects, if_pos selects]
    cases record.diagnostics <;> rfl
  · have selects : ¬ isSelected [] record = true := by simpa [isSelected] using directed
    rw [if_neg directed, if_neg selects, if_neg selects]
    rfl

-- A record that only has a directive on a field is to be expanded, and so it is reported.
example :
    ({ name := "R", fields := [⟨none, "", "u8", ["substruct(R)"]⟩] } : Record).shown.diagnostics =
      [.malformed (.undeclared "R") "R"] := by decide +kernel

theorem detailOf?_of_absent (absent : ∀ record ∈ records, record.name ≠ name) :
    detailOf? records name = .ok none := by
  have unfound : (records.find? fun record => record.name == name) = none :=
    List.find?_eq_none.2 fun record member => by simpa using absent record member
  rw [detailOf?, unfound]
  rfl

theorem detailOf?_of_present (present : ∃ record ∈ records, record.name = name) :
    ∃ earlier record later, records = earlier ++ record :: later ∧ record.name = name ∧
      (∀ other ∈ earlier, other.name ≠ name) ∧
      detailOf? records name = .ok (some record.shown) := by
  obtain ⟨record, member, named⟩ := present
  obtain ⟨found, looked⟩ :
      ∃ found, (records.find? fun record => record.name == name) = some found :=
    Option.isSome_iff_exists.1 (List.find?_isSome.2 ⟨record, member, by simpa using named⟩)
  obtain ⟨own, earlier, later, split, others⟩ := List.find?_eq_some_iff_append.1 looked
  refine ⟨earlier, found, later, split, by simpa using own,
    fun other before => by simpa using others other before, ?_⟩
  rw [detailOf?, looked, Option.mapM_some, detail_eq]
  rfl

end RecordProjection
