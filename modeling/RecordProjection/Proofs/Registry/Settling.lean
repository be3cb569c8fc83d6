import RecordProjection.Proofs.Registry.Preservation

/-! Records as they are read again. Empty bounds are absent then and nothing else has changed, so a
record expands to the same definitions but for their empty bounds, which are not written. -/

namespace RecordProjection
open Markup

def Definition.written (definition : Definition) : Element × List Int :=
  (definition.element, definition.indices)

def Record.settled (record : Record) : Record :=
  { record with generics := record.generics.map Generic.settled }

theorem element_settled (generic : Generic) : generic.settled.element = generic.element := by
  obtain ⟨name, bounds⟩ := generic
  unfold Generic.settled Generic.element
  cases bounds with
  | none => rfl
  | some text => by_cases empty : text = "" <;> simp [Option.filter, empty]

def Definition.settled (definition : Definition) : Definition :=
  { definition with generics := definition.generics.map Generic.settled }

theorem written_settled (definition : Definition) :
    definition.settled.written = definition.written := by
  have generics : (definition.generics.map Generic.settled).map Generic.element =
      definition.generics.map Generic.element := by
    rw [List.map_map]
    exact List.map_congr_left fun generic _ => element_settled generic
  unfold Definition.written Definition.element Definition.settled
  rw [generics]
  rfl

theorem written_unchanged (definition : Definition) :
    definition.record.unchanged.written = definition.written :=
  written_settled definition

theorem usedGenerics_settled (generics : List Generic) (types : List String) :
    usedGenerics (generics.map Generic.settled) types =
      (usedGenerics generics types).map Generic.settled :=
  List.filter_map

theorem genericsOf_settled (record : Record) (projection : String) :
    record.settled.parse.genericsOf projection =
      (record.parse.genericsOf projection).map Generic.settled :=
  usedGenerics_settled record.generics _

theorem unusedGenerics_settled (record : Record) (projection : String) :
    record.settled.parse.unusedGenerics projection = record.parse.unusedGenerics projection := by
  unfold ParsedRecord.unusedGenerics
  rw [genericsOf_settled, List.map_map]
  change (((record.generics.map Generic.settled).filter _).map _) = _
  rw [List.filter_map, List.map_map]
  rfl

theorem diagnostics_settled (record : Record) :
    record.settled.diagnostics = record.diagnostics := by
  have directives : record.settled.directiveDiagnostics = record.directiveDiagnostics := rfl
  have projections : record.settled.parse.projectionDiagnostics =
      record.parse.projectionDiagnostics := by
    have declares : record.settled.parse.declared = record.parse.declared := rfl
    unfold ParsedRecord.projectionDiagnostics
    rw [declares, funext (unusedGenerics_settled record)]
    rfl
  rw [Record.diagnostics, directives, projections, Record.diagnostics]

theorem allDefinitions_settled (record : Record) :
    record.settled.parse.allDefinitions = record.parse.allDefinitions.map Definition.settled := by
  have projections : record.settled.parse.projections =
      record.parse.projections.map fun spec =>
        { spec with generics := spec.generics.map Generic.settled } := by
    have declares : record.settled.parse.declared = record.parse.declared := rfl
    unfold ParsedRecord.projections
    rw [declares]
    cases record.parse.declared with
    | none => rfl
    | some declared =>
      dsimp only
      rw [List.map_map]
      refine List.map_congr_left fun name _ => ?_
      rw [genericsOf_settled]
      rfl
  unfold ParsedRecord.allDefinitions
  rw [projections, List.map_map, List.map_cons, List.map_map]
  rfl

end RecordProjection
