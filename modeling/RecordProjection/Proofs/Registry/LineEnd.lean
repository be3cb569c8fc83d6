import RecordProjection.Proofs.Markup.Document
import RecordProjection.Proofs.Reading
import RecordProjection.Proofs.Registry.Indentation
import RecordProjection.Proofs.Registry.Writability
import RecordProjection.Registry.Document

/-! Registries and line ends. A document reads as the elements it was made of, with line feeds for
all line ends in annotations: only there do values stand between tags. -/

namespace RecordProjection
open Markup Text

def Field.lineFed (field : Field) : Field :=
  { field with annotations := field.annotations.map lineFedText }

def Definition.lineFed (definition : Definition) : Definition :=
  { definition with
    annotations := definition.annotations.map lineFedText
    fields := definition.fields.map Field.lineFed }

theorem lineFedText_eq_self_iff {text : String} :
    lineFedText text = text ↔ '\r' ∉ text.toList := by
  rw [lineFedText, ← String.toList_inj, String.toList_ofList, lineFeeds_eq_self_iff]

theorem lineFedText_map_eq_self_iff {notes : List String} :
    notes.map lineFedText = notes ↔ ∀ note ∈ notes, '\r' ∉ note.toList := by
  simp only [map_eq_self_iff, lineFedText_eq_self_iff]

theorem lineFed_fields_eq_self_iff {fields : List Field} :
    fields.map Field.lineFed = fields ↔
      ∀ note ∈ fields.flatMap Field.annotations, '\r' ∉ note.toList := by
  have each (field : Field) : field.lineFed = field ↔ ∀ note ∈ field.annotations,
      '\r' ∉ note.toList := by
    rw [← lineFedText_map_eq_self_iff]
    exact ⟨fun same => congrArg Field.annotations same, fun same => by rw [Field.lineFed, same]⟩
  simp only [map_eq_self_iff, each, List.forall_mem_flatMap]

theorem lineFed_map_eq_self {definitions : List Definition}
    (plain : ∀ definition ∈ definitions, ∀ note ∈ definition.allAnnotations, '\r' ∉ note.toList) :
    definitions.map Definition.lineFed = definitions := by
  refine map_eq_self_iff.2 fun definition member => ?_
  obtain ⟨own, inside⟩ := List.forall_mem_append.1 (plain definition member)
  rw [Definition.lineFed, lineFedText_map_eq_self_iff.2 own, lineFed_fields_eq_self_iff.2 inside]

theorem lineFed_parent (tag : String) (attributes : List (String × String))
    (children : List Element) :
    (Element.mk tag attributes "" children).lineFed =
      ⟨tag, attributes, "", children.map Element.lineFed⟩ := by
  rw [Element.lineFed, lineFedAll_eq]
  rfl

theorem lineFed_map {α : Type} {make : α → Element}
    (plain : ∀ value, (make value).lineFed = make value) (values : List α) :
    (values.map make).map Element.lineFed = values.map make := by
  rw [List.map_map]
  exact List.map_congr_left fun value _ => plain value

theorem lineFed_annotations (notes : List String) :
    (notes.map annotationElement).map Element.lineFed =
      (notes.map lineFedText).map annotationElement := by
  rw [List.map_map, List.map_map]
  rfl

theorem lineFed_field (field : Field) : field.element.lineFed = field.lineFed.element := by
  rw [Field.element, lineFed_parent, lineFed_annotations]
  rfl

theorem lineFed_plan (plan : ConversionPlan) : plan.element.lineFed = plan.element := by
  rw [ConversionPlan.element, lineFed_parent, List.map_append,
    lineFed_map (fun _ => rfl), lineFed_map (fun _ => rfl)]

theorem lineFed_definition (definition : Definition) :
    definition.element.lineFed = definition.lineFed.element := by
  have fields : (definition.fields.map Field.element).map Element.lineFed =
      (definition.fields.map Field.lineFed).map Field.element := by
    rw [List.map_map, List.map_map]
    exact List.map_congr_left fun field _ => lineFed_field field
  have conversion : (definition.conversion.map ConversionPlan.element).toList.map Element.lineFed =
      (definition.conversion.map ConversionPlan.element).toList := by
    rw [Option.toList_map, lineFed_map lineFed_plan]
  rw [Definition.element, lineFed_parent, List.map_append, List.map_append, List.map_append,
    lineFed_map (fun _ => rfl), lineFed_annotations, fields, conversion]
  rfl

theorem lineFed_registryElement (definitions : List Definition) :
    (registryElement definitions).lineFed =
      registryElement (definitions.map Definition.lineFed) := by
  rw [registryElement, lineFed_parent, List.map_map, registryElement, List.map_map]
  congr 1
  exact List.map_congr_left fun definition _ => lineFed_definition definition

theorem readRecords_of_root {octets : ByteArray} {root : Element}
    (read : readDocument octets = .ok root) :
    readRecords octets = (recordsOf root).mapError ReadFault.registry := by
  unfold readRecords
  rw [read]
  dsimp only
  cases recordsOf root <;> rfl

/-- A written registry is the tree it was made of, indented and with line feeds only. -/
theorem readDocument_registryDocument {definitions : List Definition}
    (writable : ∀ definition ∈ definitions, definition.Writable) :
    readDocument (registryDocument definitions).toUTF8 =
      .ok ((registryElement (definitions.map Definition.lineFed)).indented 0) := by
  rw [registryDocument, readDocument_renderDocument (writable_registryElement writable),
    lineFed_registryElement]

theorem readRecords_registryDocument {definitions : List Definition}
    (writable : ∀ definition ∈ definitions, definition.Writable) :
    readRecords (registryDocument definitions).toUTF8 =
      (recordsOf (registryElement (definitions.map Definition.lineFed))).mapError
        ReadFault.registry := by
  rw [readRecords_of_root (readDocument_registryDocument writable), recordsOf_indented]

end RecordProjection
