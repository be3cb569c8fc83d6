import Mathlib.Data.List.Nodup
import RecordProjection.Proofs.Projection.Conversion
import RecordProjection.Proofs.Text.Numeral
import RecordProjection.Registry.Reading

/-! Names of arguments. What a conversion has to be supplied with is asked for under the name of a
field, or after its position where it has none. Fields have different names, and so have positions,
but a field may be called what another one's position is called. -/

namespace RecordProjection
open Markup Text

structure Record.LeavesOut (record : Record) (kept : List Int) (field : Field) (position : Nat) :
    Prop where
  stands : record.fields[position]? = some field
  absent : (position : Int) ∉ kept

/-- Of the fields that are left out one has no name, and another has the name that the position of
that one is given. -/
def Record.Clashes (record : Record) (kept : List Int) : Prop :=
  ∃ nameless position, record.LeavesOut kept nameless position ∧ nameless.name = none ∧
    ∃ named place, record.LeavesOut kept named place ∧ named.name = some s!"arg{position}"

section Names
variable {record : Record} {kept : List Int} {first second : Field} {position place : Nat}
  {name : String}

theorem argumentName_of_named (named : first.name = some name) (index : Int) :
    argumentName first index = name := by
  rw [argumentName, named, Option.getD_some]

theorem argumentName_of_nameless (nameless : first.name = none) (position : Nat) :
    argumentName first position = s!"arg{position}" := by
  rw [argumentName, nameless, Option.getD_none]
  rfl

theorem position_eq_of_name (distinct : (record.fields.filterMap Field.name).Nodup)
    (one : record.fields[position]? = some first) (other : record.fields[place]? = some second)
    (named : first.name = some name) (same : second.name = some name) : position = place := by
  obtain ⟨inside, rfl⟩ := List.getElem?_eq_some_iff.1 one
  obtain ⟨within, rfl⟩ := List.getElem?_eq_some_iff.1 other
  have apart := List.pairwise_iff_getElem.1 (List.pairwise_filterMap.1 distinct)
  rcases Nat.lt_trichotomy position place with before | equal | after
  · exact absurd rfl (apart position place inside within before name named name same)
  · exact equal
  · exact absurd rfl (apart place position within inside after name same name named)

theorem position_eq_of_argumentName (distinct : (record.fields.filterMap Field.name).Nodup)
    (clear : ¬ record.Clashes kept) (one : record.LeavesOut kept first position)
    (other : record.LeavesOut kept second place)
    (same : argumentName first position = argumentName second place) : position = place := by
  cases named : first.name with
  | none =>
    rw [argumentName_of_nameless named] at same
    cases called : second.name with
    | none =>
      rw [argumentName_of_nameless called] at same
      exact natural_text_injective ((String.append_right_inj "arg").1 same)
    | some name =>
      rw [argumentName_of_named called] at same
      exact absurd ⟨first, position, one, named, second, place, other, same ▸ called⟩ clear
  | some name =>
    rw [argumentName_of_named named] at same
    cases called : second.name with
    | none =>
      rw [argumentName_of_nameless called] at same
      exact absurd ⟨second, place, other, called, first, position, one, same ▸ named⟩ clear
    | some title =>
      rw [argumentName_of_named called] at same
      exact position_eq_of_name distinct one.stands other.stands named (same ▸ called)

end Names

section Plans
variable {record : Record} (choose : ParsedField → Bool)

theorem mem_filter_not_iff {field : ParsedField} :
    (field ∈ record.parse.fields.filter fun field => !choose field) ↔
      ∃ original position, field = original.parse record.name position ∧
        record.LeavesOut ((record.parse.fields.filter choose).map ParsedField.index) original
          position := by
  rw [List.mem_filter]
  constructor
  · rintro ⟨member, refused⟩
    obtain ⟨position, original, stands, rfl⟩ := exists_of_mem_fields member
    refine ⟨original, position, rfl, stands, fun kept => ?_⟩
    have chosen := contains_index choose member
    rw [Bool.not_eq_true', ← chosen, List.contains_eq_mem, decide_eq_false_iff_not] at refused
    exact refused kept
  · rintro ⟨original, position, rfl, stands, absent⟩
    have member := mem_fields_of_getElem? stands
    refine ⟨member, ?_⟩
    rw [Bool.not_eq_true', ← contains_index choose member, List.contains_eq_mem,
      decide_eq_false_iff_not]
    exact absent

theorem nodup_arguments_iff (distinct : (record.fields.filterMap Field.name).Nodup) :
    ((conversionPlan record (record.parse.fields.filter choose)).arguments.map
        ConversionArgument.name).Nodup ↔
      ¬ record.Clashes ((record.parse.fields.filter choose).map ParsedField.index) := by
  have different : (record.parse.fields.filter fun field => !choose field).Nodup :=
    List.Nodup.filter _ (List.Nodup.of_map ParsedField.index
      ((indices_pairwise record).imp Int.ne_of_lt))
  rw [arguments_conversionPlan, List.map_map, List.nodup_map_iff_inj_on different]
  constructor
  · rintro injective ⟨nameless, position, one, lacks, named, place, other, called⟩
    have same : argumentName nameless position = argumentName named place := by
      rw [argumentName_of_nameless lacks, argumentName_of_named called]
    have equal := injective _ ((mem_filter_not_iff choose).2 ⟨nameless, position, rfl, one⟩) _
      ((mem_filter_not_iff choose).2 ⟨named, place, rfl, other⟩) same
    have original : nameless = named := congrArg ParsedField.field equal
    rw [original, called] at lacks
    cases lacks
  · intro clear field member other among same
    obtain ⟨first, position, rfl, one⟩ := (mem_filter_not_iff choose).1 member
    obtain ⟨second, place, rfl, left⟩ := (mem_filter_not_iff choose).1 among
    have equal := position_eq_of_argumentName distinct clear one left same
    subst equal
    rw [Option.some.inj (one.stands.symm.trans left.stands)]

end Plans

/-- The arguments of a conversion have different names exactly if no field that the projection
leaves out is called after the position of a field without a name that it leaves out as well. -/
theorem nodup_argument_names_iff {record : Record} {expansion : Expansion}
    (distinct : (record.fields.filterMap Field.name).Nodup)
    (expanded : record.expand = .ok expansion) :
    ∀ definition ∈ expansion.definitions.tail, ∃ plan, definition.conversion = some plan ∧
      ((plan.arguments.map ConversionArgument.name).Nodup ↔
        ¬ record.Clashes definition.sourceIndices) := by
  intro definition member
  rw [expand_eq, Except.ok.injEq] at expanded
  subst expanded
  dsimp only at member
  split at member
  · obtain ⟨spec, listed, rfl⟩ := List.mem_map.1 member
    refine ⟨conversionPlan record spec.fields, rfl, ?_⟩
    change _ ↔ ¬ record.Clashes (spec.fields.map ParsedField.index)
    rw [(mem_projections listed).1]
    exact nodup_arguments_iff (fun field => field.membership.includes spec.name) distinct
  · cases member

def entryRecord : Record where
  name := "Entry"
  annotations := ["substruct(Key, Named)"]
  fields :=
    [⟨some "key", "", "u32", ["substruct(Key, Named)"]⟩, ⟨none, "", "u16", []⟩,
      ⟨some "arg1", "", "u8", ["substruct(Named)"]⟩]

def entryKey : Definition where
  name := "Key"
  fields := [⟨some "key", "", "u32", []⟩]
  sourceIndices := [0]
  conversion := some ⟨"Entry", "into_entry", [(0, 0)], [⟨1, "arg1", "u16"⟩, ⟨2, "arg1", "u8"⟩]⟩

def entryNamed : Definition where
  name := "Named"
  fields := [⟨some "key", "", "u32", []⟩, ⟨some "arg1", "", "u8", []⟩]
  sourceIndices := [0, 2]
  conversion := some ⟨"Entry", "into_entry", [(0, 0), (2, 1)], [⟨1, "arg1", "u16"⟩]⟩

theorem expand_entryRecord :
    entryRecord.expand = .ok ⟨entryRecord.parse, [], entryRecord.parse.allDefinitions⟩ := by
  have clean : entryRecord.diagnostics = [] := by decide +kernel
  rw [expand_eq, clean]
  rfl

theorem projections_entryRecord :
    entryRecord.parse.allDefinitions.tail = [entryKey, entryNamed] := by
  decide +kernel

theorem nodup_argument_names_iff_entry :
    (entryRecord.fields.filterMap Field.name).Nodup ∧
      ∃ expansion, entryRecord.expand = .ok expansion ∧
        expansion.definitions.tail = [entryKey, entryNamed] ∧
        entryRecord.Clashes entryKey.sourceIndices ∧
        ¬ entryRecord.Clashes entryNamed.sourceIndices := by
  have distinct : (entryRecord.fields.filterMap Field.name).Nodup := by decide
  have names := nodup_argument_names_iff distinct expand_entryRecord
  rw [projections_entryRecord, List.forall_mem_cons, List.forall_mem_singleton] at names
  obtain ⟨first, second⟩ := names
  refine ⟨distinct, _, expand_entryRecord, projections_entryRecord, ?_, ?_⟩
  · obtain ⟨plan, carried, distinguished⟩ := first
    cases carried
    by_contra clear
    exact absurd (distinguished.2 clear) (by decide)
  · obtain ⟨plan, carried, distinguished⟩ := second
    cases carried
    exact distinguished.1 (by decide)

def entryElement : Element where
  tag := "record"
  attributes := [("name", "Entry")]
  children := [
    { tag := "annotation", text := "substruct(Key, Named)" },
    { tag := "field", attributes := [("name", "key"), ("type", "u32")],
      children := [{ tag := "annotation", text := "substruct(Key, Named)" }] },
    { tag := "field", attributes := [("type", "u16")] },
    { tag := "field", attributes := [("name", "arg1"), ("type", "u8")],
      children := [{ tag := "annotation", text := "substruct(Named)" }] }]

theorem not_nodup_argument_names :
    ¬ ∀ element record expansion, Record.ofElement element = .ok record →
      (∀ name ∈ record.fields.filterMap Field.name, isIdentifier name.toList = true) →
      (record.fields.filterMap Field.name).Nodup → record.expand = .ok expansion →
      ∀ definition ∈ expansion.definitions.tail, ∀ plan, definition.conversion = some plan →
        (plan.arguments.map ConversionArgument.name).Nodup := by
  intro claimed
  have accepted : Record.ofElement entryElement = .ok entryRecord := rfl
  have named : ∀ name ∈ entryRecord.fields.filterMap Field.name,
      isIdentifier name.toList = true := by decide
  have member : entryKey ∈ entryRecord.parse.allDefinitions.tail := by
    rw [projections_entryRecord]
    exact List.mem_cons_self
  have distinct := claimed _ _ _ accepted named (by decide) expand_entryRecord _ member _ rfl
  exact absurd distinct (by decide)

end RecordProjection
