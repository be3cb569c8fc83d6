import RecordProjection.Proofs.Projection.Reference

/-! What an emitted record depends on. Its definition is made of the fields and of the annotations
that are no lists of names, and of the documentation that the lists hold for its own name. What else
the lists hold does not matter, so a projection stays as it is when others come, go or move. -/

namespace RecordProjection
open Directive

def Record.withoutLists (record : Record) : Record :=
  { record with
    annotations := record.annotations.filter fun note =>
      directiveKind? note ≠ some .membership }

def Record.definitionFor (record : Record) (target : String) : Definition :=
  if target = record.name then record.parse.sourceDefinition
  else record.parse.projectionDefinition
    ⟨target, record.parse.members target, record.parse.genericsOf target⟩

theorem eq_definitionFor {record : Record} {definition : Definition}
    (member : definition ∈ record.parse.allDefinitions) :
    definition = record.definitionFor definition.name := by
  rcases List.mem_cons.1 member with rfl | projected
  · exact (if_pos rfl).symm
  · obtain ⟨spec, listed, rfl⟩ := List.mem_map.1 projected
    obtain ⟨fields, generics⟩ := mem_projections listed
    have created := mem_createdNames_of_mem_projections listed
    have other : spec.name ≠ record.name := by
      simpa using (List.mem_filter.1 (List.mem_eraseDups.1 created)).2
    change _ = record.definitionFor spec.name
    rw [Record.definitionFor, if_neg other, ← fields, ← generics]

theorem passthrough_withoutLists (record : Record) :
    passthrough record.withoutLists.annotations = passthrough record.annotations := by
  unfold passthrough Record.withoutLists
  rw [List.filter_filter]
  refine List.filter_congr fun note _ => ?_
  rcases kind : directiveKind? note with _ | _ | _ <;> simp [isDirective, kind]

theorem overrides_withoutLists (record : Record) :
    record.withoutLists.parse.overrides = record.parse.overrides := by
  rw [parse_overrides, parse_overrides, Record.withoutLists, List.filterMap_filter]
  refine List.filterMap_congr fun note _ => ?_
  rcases kind : directiveKind? note with _ | _ | _ <;> simp [overrideOf?, kind]

section TwoRecords
variable {first second : Record} {target : String}

/-- The annotations for a name depend on its documentation, but on nothing else in the lists. -/
theorem annotationsIn_congr (alike : first.withoutLists = second.withoutLists)
    (documented : first.parse.documentationFor target = second.parse.documentationFor target) :
    first.parse.annotationsIn target = second.parse.annotationsIn target := by
  have kept : first.parse.passthrough = second.parse.passthrough := by
    change passthrough first.annotations = passthrough second.annotations
    rw [← passthrough_withoutLists first, alike, passthrough_withoutLists]
  have overrides : first.parse.overrides = second.parse.overrides := by
    rw [← overrides_withoutLists first, alike, overrides_withoutLists]
  rw [ParsedRecord.annotationsIn, documented, kept, overrides]
  rfl

theorem definitionFor_congr (alike : first.withoutLists = second.withoutLists)
    (documented : first.parse.documentationFor target = second.parse.documentationFor target) :
    first.definitionFor target = second.definitionFor target := by
  have annotations := annotationsIn_congr alike documented
  obtain ⟨name, kind, generics, notes, fields, conversion⟩ := first
  obtain ⟨_, _, _, others, _, _⟩ := second
  simp only [Record.withoutLists, Record.mk.injEq] at alike
  obtain ⟨rfl, rfl, rfl, -, rfl, rfl⟩ := alike
  -- All but the annotations is the same by definition.
  unfold Record.definitionFor
  split
  · subst target
    rw [ParsedRecord.sourceDefinition, ParsedRecord.sourceDefinition, Definition.mk.injEq]
    exact ⟨rfl, rfl, rfl, annotations, rfl, rfl, rfl⟩
  · rw [ParsedRecord.projectionDefinition, ParsedRecord.projectionDefinition, Definition.mk.injEq]
    exact ⟨rfl, rfl, rfl, annotations, rfl, rfl, rfl⟩

/-- Two records that differ in their lists only have the same definition for every name that both of
them emit with the same documentation. -/
theorem definition_depends_on_name {one other : Expansion}
    (alike : first.withoutLists = second.withoutLists)
    (expanded : first.expand = .ok one) (expands : second.expand = .ok other) :
    ∀ definition ∈ one.definitions, ∀ counterpart ∈ other.definitions,
      counterpart.name = definition.name →
      first.parse.documentationFor definition.name =
        second.parse.documentationFor definition.name →
      counterpart = definition := by
  intro definition member counterpart listed same documented
  rw [eq_definitionFor (emitted_of_expand expanded member).2,
    eq_definitionFor (emitted_of_expand expands listed).2, same]
  exact (definitionFor_congr alike documented).symm

end TwoRecords

def pairedRecord : Record where
  name := "R"
  annotations := ["substruct(A, \"mine\" S)", "a"]
  fields := [⟨some "key", "", "u8", ["substruct(not(R))"]⟩, ⟨none, "", "u8", []⟩]

def movedRecord : Record :=
  { pairedRecord with annotations := ["substruct(\"mine\" S)", "a", "substruct(B)"] }

theorem definition_depends_on_name_moved :
    pairedRecord.withoutLists = movedRecord.withoutLists ∧
      ∃ one other definition counterpart,
        pairedRecord.expand = .ok one ∧ movedRecord.expand = .ok other ∧
        definition ∈ one.definitions ∧ counterpart ∈ other.definitions ∧
        counterpart.name = definition.name ∧
        pairedRecord.parse.documentationFor definition.name =
          movedRecord.parse.documentationFor definition.name ∧
        counterpart = definition := by
  have alike : pairedRecord.withoutLists = movedRecord.withoutLists := by decide +kernel
  have paired : pairedRecord.diagnostics = [] := by decide +kernel
  have moved : movedRecord.diagnostics = [] := by decide +kernel
  have member : pairedRecord.definitionFor "S" ∈ pairedRecord.parse.allDefinitions := by
    decide +kernel
  have listed : movedRecord.definitionFor "S" ∈ movedRecord.parse.allDefinitions := by
    decide +kernel
  have documented : pairedRecord.parse.documentationFor "S" =
      movedRecord.parse.documentationFor "S" := by decide +kernel
  exact ⟨alike, _, _, _, _, expand_of_clean paired, expand_of_clean moved, member, listed, rfl,
    documented, definition_depends_on_name alike (expand_of_clean paired) (expand_of_clean moved)
      _ member _ listed rfl documented⟩

end RecordProjection
