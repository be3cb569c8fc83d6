import RecordProjection.Proofs.Directive.Excerpt
import RecordProjection.Proofs.Projection.Reference

/-! What the definitions of a record are made of: fields of the record with annotations that come
from theirs, generic parameters of the record, and names that its lists hold. A plan is the one the
record carries or keeps and supplies fields of it. -/

namespace RecordProjection
open Directive Text

structure Definition.Derives (definition : Definition) (record : Record) : Prop where
  named : isName record.name = true → isName definition.name = true
  kind : definition.kind = record.kind
  generics : definition.generics ⊆ record.generics
  annotations : ∀ note ∈ definition.annotations, Originates record.annotations note
  fields : ∀ field ∈ definition.fields, ∃ original ∈ record.fields,
    field.signature = original.signature ∧
      ∀ note ∈ field.annotations, Originates original.annotations note
  conversion : ∀ plan, definition.conversion = some plan → record.conversion = some plan ∨
    ∃ members ⊆ record.parse.fields, plan = conversionPlan record members

theorem derives_field {record : Record} {members : List ParsedField} {target : String}
    (within : members ⊆ record.parse.fields) :
    ∀ field ∈ members.map fun member => member.emit target, ∃ original ∈ record.fields,
      field.signature = original.signature ∧
        ∀ note ∈ field.annotations, Originates original.annotations note := by
  refine List.forall_mem_map.2 fun member listed => ?_
  obtain ⟨position, original, stands, rfl⟩ := exists_of_mem_fields (within listed)
  exact ⟨original, List.mem_of_getElem? stands, rfl, fun note carries =>
    originates_of_mem_field carries⟩

theorem isName_of_mem_allNames {record : Record} {name : String} (member : name ∈ record.allNames) :
    isName name = true := by
  obtain ⟨entry, listed, rfl⟩ := List.mem_map.1 member
  obtain ⟨note, -, inside⟩ := List.mem_flatMap.1 listed
  obtain ⟨entries, read, among⟩ := mem_listedNames inside
  exact (declaredNames_excerpt read entry among).1

theorem mem_allNames_of_mem_projections {record : Record} {spec : ProjectionSpec}
    (member : spec ∈ record.parse.projections) : spec.name ∈ record.allNames :=
  (List.mem_filter.1 (List.mem_eraseDups.1 (mem_createdNames_of_mem_projections member))).1

theorem derives_sourceDefinition (record : Record) :
    record.parse.sourceDefinition.Derives record where
  named := id
  kind := rfl
  generics := List.Subset.refl _
  annotations := fun _ member => originates_of_mem_record member
  fields := derives_field (List.Subset.refl _)
  conversion := fun _ same => .inl same

theorem derives_projectionDefinition {record : Record} {spec : ProjectionSpec}
    (member : spec ∈ record.parse.projections) :
    (record.parse.projectionDefinition spec).Derives record := by
  obtain ⟨fields, generics⟩ := mem_projections member
  have within : spec.fields ⊆ record.parse.fields := by
    rw [fields]
    exact List.filter_subset_self _
  refine ⟨fun _ => isName_of_mem_allNames (mem_allNames_of_mem_projections member), rfl, ?_,
    fun _ member => originates_of_mem_record member,
    derives_field within, fun plan same => .inr ⟨spec.fields, within, ?_⟩⟩
  · change spec.generics ⊆ record.generics
    rw [generics]
    exact List.filter_subset_self _
  · exact (Option.some.inj same).symm

theorem derives_of_mem {record : Record} {definition : Definition}
    (member : definition ∈ record.parse.allDefinitions) : definition.Derives record := by
  rcases List.mem_cons.1 member with rfl | projected
  · exact derives_sourceDefinition record
  · obtain ⟨spec, listed, rfl⟩ := List.mem_map.1 projected
    exact derives_projectionDefinition listed

end RecordProjection
