import RecordProjection.Proofs.Projection.Selection
import RecordProjection.Proofs.Registry.Preservation

/-! Emitted definitions as records. Whatever an expansion emits for a record of a registry is read
from its element with everything it says, and nothing in it is a directive any more. -/

namespace RecordProjection
open Directive Markup Text

theorem lt_of_mem_positions {length : Nat} {index : Int} (member : index ∈ positions length) :
    index < length := by
  obtain ⟨number, listed, rfl⟩ := List.mem_map.1 member
  exact Int.ofNat_lt.2 (List.mem_range.1 listed)

theorem lt_conversionPlan {record : Record} {members : List ParsedField}
    (within : members.Sublist record.parse.fields) :
    ∀ index ∈ (conversionPlan record members).indices, index < record.fields.length := by
  have length : record.parse.fields.length = record.fields.length := by
    rw [← List.length_map ParsedField.index, indices_eq_positions, positions, List.length_map,
      List.length_range]
  have fewer : members.length ≤ record.fields.length := length ▸ within.length_le
  simp only [ConversionPlan.indices, List.forall_mem_append, List.forall_mem_flatMap,
    List.forall_mem_cons]
  refine ⟨fun pair member => ⟨?_, ?_, List.forall_mem_nil _⟩,
    List.forall_mem_map.2 fun argument member => ?_⟩
  · have place := List.map_subset ParsedField.index within.subset (List.of_mem_zip member).1
    rw [indices_eq_positions] at place
    exact lt_of_mem_positions place
  · have place := lt_of_mem_positions (List.of_mem_zip member).2
    rw [List.length_map] at place
    omega
  · obtain ⟨⟨field, index⟩, listed, rfl⟩ := List.mem_map.1 member
    obtain ⟨⟨original, position⟩, stands, same⟩ := List.mem_map.1 (List.mem_filter.1 listed).1
    cases same
    exact Int.ofNat_lt.2 (List.snd_lt_of_mem_zipIdx stands)

/-- The indices of what is emitted can be converted, unless there are more fields than numbers that
can be. -/
theorem convertible_of_mem {record : Record} {definition : Definition}
    (storable : record.unchanged.Storable) (short : record.fields.length ≤ 10 ^ maxDigits)
    (member : definition ∈ record.parse.allDefinitions) :
    ∀ index ∈ definition.indices, isConvertible index = true := by
  rcases List.mem_cons.1 member with rfl | projected
  · exact storable.convertible
  · obtain ⟨spec, listed, rfl⟩ := List.mem_map.1 projected
    have within : spec.fields.Sublist record.parse.fields :=
      (mem_projections listed).1 ▸ List.filter_sublist
    intro index inside
    have natural : 0 ≤ index := natural_conversionPlan record within.subset index inside
    have bounded : index < record.fields.length := lt_conversionPlan within index inside
    unfold isConvertible
    rw [decide_eq_true_eq]
    generalize 10 ^ maxDigits = bound at short ⊢
    omega

/-- What is emitted for a record without diagnostics is read from its element as a record with the
same name, kind, annotations, fields and plan, with generic parameters whose empty bounds are
absent, and without directives. The bound is beyond every list that a program can hold. -/
theorem emitted_reads_back {root : Element} {records : List Record}
    (loaded : recordsOf root = .ok records) {record : Record} (member : record ∈ records)
    (short : record.fields.length ≤ 10 ^ maxDigits) :
    ∃ expansion, record.expand = .ok expansion ∧ (expansion.diagnostics = [] →
      ∀ definition ∈ expansion.definitions, ∃ again,
        Record.ofElement definition.element = .ok again ∧
          again = {
            name := definition.name
            kind := definition.kind
            generics := definition.generics.map fun generic =>
              { generic with bounds := generic.bounds.filter (· ≠ "") }
            annotations := definition.annotations
            fields := definition.fields
            conversion := definition.conversion } ∧
          again.usesDirectives = false) := by
  obtain ⟨element, -, read⟩ := mem_recordsOf loaded member
  have storable := storable_recordOf read
  refine ⟨_, expand_eq record, fun clean definition emitted => ?_⟩
  have quiet : record.diagnostics = [] := clean
  simp only [quiet, List.isEmpty_nil, if_true] at emitted
  have stored : definition.Storable :=
    (derives_of_mem emitted).storable storable (convertible_of_mem storable short emitted)
  exact ⟨definition.record, recordOf_element stored, rfl,
    undirected_record (undirected_of_mem emitted)⟩

def annotatedElement : Element where
  tag := "record"
  attributes := [("name", "Query")]
  children := [
    { tag := "generic", attributes := [("name", "T"), ("bounds", "")] },
    { tag := "annotation", text := " substruct(\"An \\\"A\\\".\" A, B)\n" },
    { tag := "annotation", text := "substruct_attr(not(Query),  serde( skip )  )" },
    { tag := "field"
      attributes := [("name", "limit"), ("type", "Option<T>")]
      children := [{ tag := "annotation", text := "substruct(A, \"\\\\\" B)" }] },
    { tag := "field"
      attributes := [("type", "T")]
      children := [
        { tag := "annotation", text := "substruct(\"Rest.\" not(Query))" },
        { tag := "annotation", text := "\tdoc = \"Old.\"" }] },
    { tag := "field", attributes := [("visibility", "pub"), ("type", "u8")] },
    { tag := "conversion"
      attributes := [("from", "Table"), ("method", "into_table")]
      children := [{ tag := "keep", attributes := [("source-index", "007"), ("index", "٢")] }] }]

def annotatedRecord : Record where
  name := "Query"
  generics := [⟨"T", some ""⟩]
  annotations := ["substruct(\"An \\\"A\\\".\" A, B)",
    "substruct_attr(not(Query),  serde( skip )  )"]
  fields := [⟨some "limit", "", "Option<T>", ["substruct(A, \"\\\\\" B)"]⟩,
    ⟨none, "", "T", ["substruct(\"Rest.\" not(Query))", "doc = \"Old.\""]⟩,
    ⟨none, "pub", "u8", []⟩]
  conversion := some ⟨"Table", "into_table", [(7, 2)], []⟩

theorem emitted_reads_back_annotated :
    recordsOf { tag := "records", children := [annotatedElement] } = .ok [annotatedRecord] ∧
      ∃ expansion, annotatedRecord.expand = .ok expansion ∧
        expansion.definitions.map Definition.name = ["Query", "A", "B"] ∧
        ∀ definition ∈ expansion.definitions, ∃ again,
          Record.ofElement definition.element = .ok again ∧ again.name = definition.name ∧
            again.generics = [⟨"T", none⟩] ∧ again.annotations = definition.annotations ∧
            again.fields = definition.fields ∧ again.conversion = definition.conversion ∧
            again.usesDirectives = false := by
  have loaded :
      recordsOf { tag := "records", children := [annotatedElement] } = .ok [annotatedRecord] := rfl
  have expands : annotatedRecord.diagnostics = [] ∧
      annotatedRecord.parse.allDefinitions.map Definition.name = ["Query", "A", "B"] ∧
      ∀ definition ∈ annotatedRecord.parse.allDefinitions,
        (definition.generics.map fun generic =>
          { generic with bounds := generic.bounds.filter (· ≠ "") }) = [⟨"T", none⟩] := by
    decide +kernel
  obtain ⟨clean, names, generics⟩ := expands
  obtain ⟨expansion, expanded, reads⟩ :=
    emitted_reads_back loaded List.mem_cons_self (by decide +kernel)
  have parts := Except.ok.inj (expanded.symm.trans (expand_eq annotatedRecord))
  rw [clean] at parts
  subst parts
  refine ⟨loaded, _, expanded, names, fun definition member => ?_⟩
  obtain ⟨_, read, rfl, undirected⟩ := reads rfl definition member
  exact ⟨_, read, rfl, generics definition member, rfl, rfl, rfl, undirected⟩

end RecordProjection
