import Mathlib.Data.List.Basic
import Mathlib.Data.List.Induction
import RecordProjection.Proofs.Projection.Emission

/-! What a record expands to, said without parsing stages: first the record with all its fields,
then one projection for each further name its annotations list, with the fields that join it.
Expansion of a record without diagnostics gives exactly these, and no two of them have the same
name. -/

namespace RecordProjection
open Directive

structure Signature where
  name : Option String
  visibility : String
  type : String
deriving DecidableEq

def Field.signature (field : Field) : Signature := ⟨field.name, field.visibility, field.type⟩

/-- A definition apart from its annotations and its plan. -/
structure Outline where
  name : String
  kind : String
  generics : List Generic
  sourceIndices : List Int
  fields : List Signature
deriving DecidableEq

def Definition.outline (definition : Definition) : Outline where
  name := definition.name
  kind := definition.kind
  generics := definition.generics
  sourceIndices := definition.sourceIndices
  fields := definition.fields.map Field.signature

def Field.joins (target : String) (field : Field) : Bool :=
  field.annotations.any fun note =>
    (listedEntries note).any fun entry => entry.selector.matches? target

namespace Record

def joining (record : Record) (target : String) : List Nat :=
  (List.range record.fields.length).filter fun position =>
    record.fields[position]?.any (Field.joins target)

def outlineAt (record : Record) (target : String) (chosen : List Nat) : Outline where
  name := target
  kind := record.kind
  generics := record.generics
  sourceIndices := chosen.map Int.ofNat
  fields := chosen.filterMap fun position => record.fields[position]?.map Field.signature

def allNames (record : Record) : List String :=
  (record.annotations.flatMap listedNames).map NameEntry.name

def createdNames (record : Record) : List String :=
  (record.allNames.filter (· != record.name)).eraseDups

def reference (record : Record) : List Outline :=
  record.outlineAt record.name (List.range record.fields.length) ::
    record.createdNames.map fun target => record.outlineAt target (record.joining target)

end Record

section Lists
variable {α β : Type}

theorem zipIdx_eq_filterMap_range (list : List α) :
    list.zipIdx = (List.range list.length).filterMap fun position =>
      list[position]?.map fun element => (element, position) := by
  induction list using List.reverseRecOn with
  | nil => rfl
  | append_singleton front last ih =>
    have earlier : (List.range front.length).filterMap
          (fun position => (front ++ [last])[position]?.map fun element => (element, position)) =
        (List.range front.length).filterMap
          (fun position => front[position]?.map fun element => (element, position)) := by
      refine List.filterMap_congr fun position member => ?_
      rw [List.getElem?_append_left (List.mem_range.1 member)]
    rw [List.zipIdx_append, List.length_append, List.length_singleton, List.range_succ,
      List.filterMap_append, earlier, ← ih]
    simp

theorem nodup_eraseDups [BEq α] [LawfulBEq α] (list : List α) : list.eraseDups.Nodup := by
  induction length : list.length using Nat.strongRecOn generalizing list with
  | ind size ih =>
    cases list with
    | nil => simp
    | cons first rest =>
      have shorter := List.length_filter_le (fun other => !other == first) rest
      rw [List.length_cons] at length
      rw [List.eraseDups_cons, List.nodup_cons, List.mem_eraseDups]
      exact ⟨by simp, ih _ (by omega) _ rfl⟩

end Lists

theorem matches_parse (field : Field) (record target : String) (index : Int) :
    (field.parse record index).membership.includes target = field.joins target := by
  rw [parse_membership, Membership.includes, List.any_flatMap, Field.joins]

theorem members_eq (record : Record) (target : String) :
    record.parse.members target = (record.joining target).filterMap fun position =>
      record.fields[position]?.map fun field => field.parse record.name (Int.ofNat position) := by
  unfold ParsedRecord.members Record.joining
  rw [parse_fields, zipIdx_eq_filterMap_range, List.map_filterMap]
  induction List.range record.fields.length with
  | nil => rfl
  | cons position rest ih =>
    cases stands : record.fields[position]? with
    | none => simpa [stands] using ih
    | some field =>
      cases joins : field.joins target <;> simpa [stands, joins, matches_parse] using ih

theorem outline_sourceDefinition (record : Record) :
    record.parse.sourceDefinition.outline =
      record.outlineAt record.name (List.range record.fields.length) := by
  have signatures : (record.parse.fields.map fun field => field.emit record.name).map
      Field.signature = record.fields.map Field.signature := by
    rw [parse_fields, List.map_map, List.map_map]
    conv_rhs => rw [← List.zipIdx_map_fst 0 record.fields, List.map_map]
    rfl
  have all : record.fields.map Field.signature =
      (List.range record.fields.length).filterMap fun position =>
        record.fields[position]?.map Field.signature := by
    conv_lhs => rw [← List.zipIdx_map_fst 0 record.fields, zipIdx_eq_filterMap_range]
    simp only [List.map_filterMap, Option.map_map, Function.comp_def]
  simp only [Definition.outline, ParsedRecord.sourceDefinition, Record.outlineAt, Outline.mk.injEq]
  exact ⟨rfl, rfl, rfl, indices_eq_positions record, signatures.trans all⟩

theorem genericsOf_eq {record : Record} {target : String}
    (clean : record.parse.unusedGenerics target = []) :
    record.parse.genericsOf target = record.generics := by
  unfold ParsedRecord.unusedGenerics at clean
  simp only [List.map_eq_nil_iff, List.filter_eq_nil_iff] at clean
  refine List.filter_eq_self.2 fun generic member => ?_
  have listed := clean generic member
  simp only [Bool.not_eq_true', Bool.not_eq_false, List.contains_eq_mem,
    decide_eq_true_eq, List.mem_map] at listed
  obtain ⟨other, used, same⟩ := listed
  exact same ▸ (List.mem_filter.1 used).2

theorem outline_projectionDefinition {record : Record} {target : String}
    (clean : record.parse.unusedGenerics target = []) :
    (record.parse.projectionDefinition
      ⟨target, record.parse.members target, record.parse.genericsOf target⟩).outline =
      record.outlineAt target (record.joining target) := by
  have within : ∀ position ∈ record.joining target,
      ∃ field, record.fields[position]? = some field :=
    fun position member => by
      have inside := List.mem_range.1 (List.mem_filter.1 member).1
      exact ⟨_, List.getElem?_eq_getElem inside⟩
  have indices : (record.parse.members target).map ParsedField.index =
      (record.joining target).map Int.ofNat := by
    rw [members_eq, List.map_filterMap, ← List.filterMap_eq_map]
    refine List.filterMap_congr fun position member => ?_
    obtain ⟨field, stands⟩ := within position member
    simp [stands]
  have signatures : ((record.parse.members target).map fun field => field.emit target).map
      Field.signature = (record.joining target).filterMap fun position =>
        record.fields[position]?.map Field.signature := by
    rw [members_eq, List.map_map, List.map_filterMap]
    simp only [Option.map_map]
    rfl
  simp only [Definition.outline, ParsedRecord.projectionDefinition, Record.outlineAt,
    Outline.mk.injEq, true_and]
  exact ⟨rfl, genericsOf_eq clean, indices, signatures⟩

theorem projections_ofEntries (record : Record) :
    (Declared.ofEntries record.name (record.annotations.flatMap listedNames)).projections =
      record.createdNames := rfl

theorem mem_createdNames_of_mem_projections {record : Record} {spec : ProjectionSpec}
    (member : spec ∈ record.parse.projections) : spec.name ∈ record.createdNames := by
  unfold ParsedRecord.projections at member
  by_cases names : record.IsDeclared
  · have declares : record.parse.declared = some _ := declared_eq_some names
    rw [declares] at member
    obtain ⟨name, listed, rfl⟩ := List.mem_map.1 member
    exact listed
  · have declares : record.parse.declared = none := declared_eq_none names
    rw [declares] at member
    cases member

theorem unusedGenerics_eq_nil {record : Record} (clean : record.diagnostics = []) :
    ∀ target ∈ record.createdNames, record.parse.unusedGenerics target = [] := by
  have declares : record.parse.declared = some _ :=
    declared_eq_some (isDeclared_of_diagnostics clean)
  unfold Record.diagnostics at clean
  rw [List.append_eq_nil_iff] at clean
  have quiet := clean.2
  simp only [ParsedRecord.projectionDiagnostics, declares, List.append_eq_nil_iff,
    List.flatMap_eq_nil_iff, projections_ofEntries] at quiet
  exact quiet.2

theorem outlines_eq_reference {record : Record} (clean : record.diagnostics = []) :
    record.parse.allDefinitions.map Definition.outline = record.reference := by
  have declares : record.parse.declared = some _ :=
    declared_eq_some (isDeclared_of_diagnostics clean)
  simp only [ParsedRecord.allDefinitions, ParsedRecord.projections, declares, List.map_cons,
    List.map_map, Record.reference, outline_sourceDefinition, List.cons.injEq, true_and,
    projections_ofEntries]
  exact List.map_congr_left fun target member =>
    outline_projectionDefinition (unusedGenerics_eq_nil clean target member)

theorem names_reference_nodup (record : Record) :
    (record.reference.map Outline.name).Nodup := by
  have names : record.reference.map Outline.name = record.name :: record.createdNames := by
    simp only [Record.reference, Record.outlineAt, List.map_cons, List.map_map]
    congr 1
    exact List.map_id _
  rw [names, List.nodup_cons]
  refine ⟨fun own => ?_, nodup_eraseDups _⟩
  have other := (List.mem_filter.1 (List.mem_eraseDups.1 own)).2
  simp at other

/-- A record without diagnostics expands to what its annotations and fields say: itself, with the
plan it came with, and one projection for each name to create. -/
theorem expand_eq_reference {record : Record} (clean : record.diagnostics = []) :
    ∃ definitions, record.expand = .ok ⟨record.parse, [], definitions⟩ ∧
      definitions.map Definition.outline = record.reference ∧
      (definitions.map Definition.name).Nodup ∧
      definitions.head?.map Definition.conversion = some record.conversion := by
  have outlines := outlines_eq_reference clean
  refine ⟨record.parse.allDefinitions, ?_, outlines, ?_, rfl⟩
  · rw [expand_eq, clean]
    rfl
  · have names := names_reference_nodup record
    rwa [← outlines, List.map_map] at names

def queryRecord : Record where
  name := "Query"
  generics := [⟨"T", some "Clone"⟩]
  annotations := ["substruct(Short, \"Mine.\" Query)", "derive(Clone)", "substruct(Long,)"]
  fields :=
    [⟨some "key", "pub", "Vec<T>",
        ["substruct(not(any(Query)), \"Kept.\" Short)", "serde(default)"]⟩,
      ⟨none, "", "u8", ["substruct(Query)", "substruct(all(Long, not(Short)))"]⟩]

theorem expand_eq_reference_query :
    queryRecord.diagnostics = [] ∧
      ∃ definitions, queryRecord.expand = .ok ⟨queryRecord.parse, [], definitions⟩ ∧
        definitions.map Definition.outline = queryRecord.reference ∧
        (definitions.map Definition.name).Nodup ∧
        definitions.head?.map Definition.conversion = some queryRecord.conversion :=
  have clean : queryRecord.diagnostics = [] := by decide +kernel
  ⟨clean, expand_eq_reference clean⟩

example : queryRecord.joining "Short" = [0] := by decide +kernel

end RecordProjection
