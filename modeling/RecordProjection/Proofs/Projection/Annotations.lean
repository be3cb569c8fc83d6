import Mathlib.Data.List.Basic
import RecordProjection.Proofs.Projection.Emission

/-! The annotations of an emitted record and of its fields, said by one rule for both. Annotations
that are no directives come first, then those that matching overrides add. If some documentation is
meant for the record, the first such text stands where documentation stood before, or in front, and
no other documentation is left. -/

namespace RecordProjection
open Directive

def addition? (target note : String) : Option String :=
  if directiveKind? note = some .override then
    match override note with
    | .ok added => if added.selector.matches? target then some added.added else none
    | .error _ => none
  else none

def baseAnnotations (target : String) (annotations : List String) : List String :=
  (annotations.filter fun note => directiveKind? note = none) ++
    annotations.filterMap (addition? target)

def Record.documentationTexts (record : Record) (target : String) : List String :=
  (record.annotations.flatMap listedNames).filterMap fun entry =>
    if entry.name = target then entry.documentation else none

def Field.documentationTexts (field : Field) (target : String) : List String :=
  (field.annotations.flatMap listedEntries).filterMap fun entry =>
    if entry.selector.matches? target then entry.documentation else none

/-- Annotations in which one documentation text stands for all documentation that there was. -/
structure IsDocumented (text : String) (base final : List String) : Prop where
  sole : final.filter isDocumentation = [documentation text]
  /-- It stands where documentation stood first, or in front if there was none. -/
  place : final.findIdx isDocumentation =
    if base.any isDocumentation then base.findIdx isDocumentation else 0
  others : final.erase (documentation text) = base.filter fun note => !isDocumentation note

/-- What the texts that apply make of annotations: nothing if there is none, else what the first of
them does. -/
def IsSettled (texts base final : List String) : Prop :=
  match texts with
  | [] => final = base
  | text :: _ => IsDocumented text base final

theorem isDocumentation_documentation (text : String) :
    isDocumentation (documentation text) = true := by
  rw [isDocumentation, leadingPath_documentation, decide_eq_true_eq]

theorem replaceDocumentation_eq (replacement : String) (annotations : List String) :
    ∃ before after, replaceDocumentation replacement annotations = before ++ replacement :: after ∧
      before ++ after = annotations.filter (fun note => !isDocumentation note) ∧
      before.length =
        if annotations.any isDocumentation then annotations.findIdx isDocumentation else 0 := by
  by_cases documented : annotations.any isDocumentation = true
  · have front : (annotations.takeWhile fun note => !isDocumentation note).filter
        (fun note => !isDocumentation note) =
          annotations.takeWhile fun note => !isDocumentation note :=
      List.filter_eq_self.2 fun note member =>
        List.mem_takeWhile_imp (p := fun note => !isDocumentation note) member
    have split := List.prefix_iff_eq_append.1
      (List.takeWhile_prefix (l := annotations) fun note => !isDocumentation note)
    refine ⟨_, _, by rw [replaceDocumentation, if_pos documented], ?_, ?_⟩
    · conv_rhs => rw [← split, List.filter_append, front]
    · simp only [if_pos documented, List.takeWhile_eq_take_findIdx_not, Bool.not_not,
        List.length_take]
      exact Nat.min_eq_left List.findIdx_le_length
  · have undocumented : annotations.filter (fun note => !isDocumentation note) = annotations := by
      refine List.filter_eq_self.2 fun note member => ?_
      rw [Bool.not_eq_true']
      exact Bool.eq_false_iff.2 fun documents =>
        documented (List.any_eq_true.2 ⟨note, member, documents⟩)
    refine ⟨[], annotations, by rw [replaceDocumentation, if_neg documented, List.nil_append],
      undocumented.symm, ?_⟩
    rw [if_neg documented, List.length_nil]

theorem isDocumented_replaceDocumentation (text : String) (annotations : List String) :
    IsDocumented text annotations (replaceDocumentation (documentation text) annotations) := by
  obtain ⟨before, after, replaced, rest, place⟩ :=
    replaceDocumentation_eq (documentation text) annotations
  have documents := isDocumentation_documentation text
  have other : ∀ note ∈ before ++ after, isDocumentation note = false := by
    intro note member
    rw [rest] at member
    simpa using (List.mem_filter.1 member).2
  have noneBefore : before.findIdx isDocumentation = before.length :=
    List.findIdx_eq_length.2 fun note member => other note (List.mem_append_left _ member)
  have absent : documentation text ∉ before := fun member => by
    rw [other _ (List.mem_append_left _ member)] at documents
    cases documents
  constructor
  case sole =>
    have undocumented : (before ++ after).filter isDocumentation = [] :=
      List.filter_eq_nil_iff.2 fun note member => by
        rw [other note member]
        exact Bool.false_ne_true
    rw [List.filter_append, List.append_eq_nil_iff] at undocumented
    rw [replaced, List.filter_append, List.filter_cons_of_pos documents, undocumented.1,
      undocumented.2, List.nil_append]
  case place =>
    rw [replaced, List.findIdx_append, noneBefore, if_neg (Nat.lt_irrefl _), List.findIdx_cons,
      documents, cond_true, Nat.zero_add, place]
  case others =>
    rw [replaced, List.erase_append_right _ absent, List.erase_cons_head, rest]

theorem isSettled_overrideDocumentation (texts annotations : List String) :
    IsSettled texts annotations (overrideDocumentation texts.head? annotations) := by
  cases texts with
  | nil => rfl
  | cons text _ => exact isDocumented_replaceDocumentation text annotations

theorem applyOverrides_eq (annotations : List String) (target : String) :
    applyOverrides (passthrough annotations) (annotations.filterMap overrideOf?) target =
      baseAnnotations target annotations := by
  unfold applyOverrides baseAnnotations passthrough
  congr 1
  · refine List.filter_congr fun note _ => ?_
    cases kind : directiveKind? note <;> simp [isDirective, kind]
  · rw [List.filter_filterMap, List.map_filterMap]
    refine List.filterMap_congr fun note _ => ?_
    rcases kind : directiveKind? note with _ | _ | _ <;>
      rcases read : override note with _ | added <;>
      simp [overrideOf?, addition?, kind, read, Except.toOption, Option.filter]

theorem documentationFor_field (field : Field) (record target : String) (index : Int) :
    (field.parse record index).membership.documentationFor target =
      (field.documentationTexts target).head? := by
  rw [parse_membership, Membership.documentationFor, Field.documentationTexts, List.head?_filterMap]

theorem documentationFor_record {record : Record} (names : record.IsDeclared) (target : String) :
    record.parse.documentationFor target = (record.documentationTexts target).head? := by
  have declares : record.parse.declared = some _ := declared_eq_some names
  rw [ParsedRecord.documentationFor, declares, Option.bind_some, Record.documentationTexts,
    List.head?_filterMap]
  exact lookup_documentation _ target []

theorem isSettled_annotations (texts annotations : List String) (target : String) :
    IsSettled texts (baseAnnotations target annotations)
      (overrideDocumentation texts.head?
        (applyOverrides (passthrough annotations) (annotations.filterMap overrideOf?) target)) := by
  rw [applyOverrides_eq]
  exact isSettled_overrideDocumentation texts _

theorem isSettled_field (field : Field) (record target : String) (index : Int) :
    IsSettled (field.documentationTexts target) (baseAnnotations target field.annotations)
      ((field.parse record index).annotationsIn target) := by
  rw [ParsedField.annotationsIn, documentationFor_field, parse_field_overrides]
  exact isSettled_annotations _ field.annotations target

theorem isSettled_record {record : Record} (names : record.IsDeclared) (target : String) :
    IsSettled (record.documentationTexts target) (baseAnnotations target record.annotations)
      (record.parse.annotationsIn target) := by
  rw [ParsedRecord.annotationsIn, documentationFor_record names, parse_overrides]
  exact isSettled_annotations _ record.annotations target

/-- A definition whose annotations follow from those of the record by the rule, and those of each
field from those of the field it is in the record. -/
structure Definition.IsAnnotated (definition : Definition) (record : Record) : Prop where
  own : IsSettled (record.documentationTexts definition.name)
    (baseAnnotations definition.name record.annotations) definition.annotations
  counts : definition.sourceIndices.length = definition.fields.length
  fields : ∀ entry ∈ definition.sourceIndices.zip definition.fields,
    ∃ (position : Nat) (original : Field), entry.1 = position ∧
      record.fields[position]? = some original ∧
      entry.2 = { original with annotations := entry.2.annotations } ∧
      IsSettled (original.documentationTexts definition.name)
        (baseAnnotations definition.name original.annotations) entry.2.annotations

theorem isAnnotated_of_subset {record : Record} {members : List ParsedField}
    {definition : Definition} (names : record.IsDeclared) (within : members ⊆ record.parse.fields)
    (indices : definition.sourceIndices = members.map ParsedField.index)
    (fields : definition.fields = members.map fun field => field.emit definition.name)
    (annotations : definition.annotations = record.parse.annotationsIn definition.name) :
    definition.IsAnnotated record where
  own := annotations ▸ isSettled_record names definition.name
  counts := by rw [indices, fields, List.length_map, List.length_map]
  fields := by
    intro entry member
    rw [indices, fields, List.zip_map', List.mem_map] at member
    obtain ⟨field, stands, rfl⟩ := member
    obtain ⟨position, original, found, rfl⟩ := exists_of_mem_fields (within stands)
    exact ⟨position, original, rfl, found, rfl, isSettled_field original _ _ _⟩

theorem isAnnotated_of_mem {record : Record} {definition : Definition} (names : record.IsDeclared)
    (member : definition ∈ record.parse.allDefinitions) : definition.IsAnnotated record := by
  rcases List.mem_cons.1 member with rfl | projected
  · exact isAnnotated_of_subset names (List.Subset.refl _) rfl rfl rfl
  · obtain ⟨spec, listed, rfl⟩ := List.mem_map.1 projected
    have within : spec.fields ⊆ record.parse.fields :=
      (mem_projections listed).1 ▸ List.filter_subset_self _
    exact isAnnotated_of_subset names within rfl rfl rfl

/-- All annotations of all records that are emitted follow the rule. -/
theorem emitted_annotations {record : Record} {expansion : Expansion}
    (expanded : record.expand = .ok expansion) :
    ∀ definition ∈ expansion.definitions, definition.IsAnnotated record := by
  intro definition member
  obtain ⟨clean, ready⟩ := emitted_of_expand expanded member
  exact isAnnotated_of_mem (isDeclared_of_diagnostics clean) ready

def documentedRecord : Record where
  name := "R"
  annotations := ["a", "substruct(\"mine\" S)", "doc", "substruct_attr(S, doc b)"]
  fields := [⟨some "key", "pub", "u8", ["b", "substruct(\"one\" S, \"two\" any(S))"]⟩]

def documentedProjection : Definition where
  name := "S"
  annotations := ["a", "doc = \"mine\""]
  fields := [⟨some "key", "pub", "u8", ["doc = \"one\"", "b"]⟩]
  sourceIndices := [0]
  conversion := some ⟨"R", "into_r", [(0, 0)], []⟩

theorem emitted_annotations_documented :
    ∃ expansion, documentedRecord.expand = .ok expansion ∧
      documentedProjection ∈ expansion.definitions ∧
      documentedProjection.IsAnnotated documentedRecord := by
  have clean : documentedRecord.diagnostics = [] := by decide +kernel
  have member : documentedProjection ∈ documentedRecord.parse.allDefinitions := by decide +kernel
  have expanded := expand_of_clean clean
  exact ⟨_, expanded, member, emitted_annotations expanded documentedProjection member⟩

example : baseAnnotations "S" documentedRecord.annotations = ["a", "doc", "doc b"] := by
  decide +kernel

end RecordProjection
