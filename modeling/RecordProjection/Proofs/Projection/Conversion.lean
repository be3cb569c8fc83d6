import Mathlib.Data.List.Basic
import RecordProjection.Proofs.Projection.Emission

/-! Conversion of a projection back into its record. A plan divides the positions of the record
between the fields that the projection keeps and those that have to be supplied. With each of them
put in its place the record has its fields again, all of them and in their order. -/

namespace RecordProjection

structure Slot where
  name : Option String
  type : String
deriving DecidableEq

def Field.slot (field : Field) (isKept : Bool) (position : Nat) : Slot where
  name := field.name <|> if isKept then none else some s!"arg{position}"
  type := field.type

theorem slot_kept (field : Field) (position : Nat) :
    field.slot true position = ⟨field.name, field.type⟩ := by
  cases given : field.name <;> simp [Field.slot, given]

theorem slot_supplied (field : Field) (position : Nat) :
    field.slot false position = ⟨some (argumentName field (Int.ofNat position)), field.type⟩ := by
  cases given : field.name with
  | none =>
    rw [Field.slot, argumentName, given]
    rfl
  | some name => simp [Field.slot, argumentName, given]

def fillSlot (slots : List (Option Slot)) (entry : Nat × Slot) : List (Option Slot) :=
  slots.set entry.1 (some entry.2)

namespace ConversionPlan

def keptIndices (plan : ConversionPlan) : List Int := plan.kept.map Prod.fst

def suppliedIndices (plan : ConversionPlan) : List Int :=
  plan.arguments.map ConversionArgument.sourceIndex

def entries (plan : ConversionPlan) (fields : List Field) : List (Nat × Slot) :=
  (plan.kept.filterMap fun (source, index) =>
      fields[index.toNat]?.map fun field => (source.toNat, ⟨field.name, field.type⟩)) ++
    plan.arguments.map fun argument =>
      (argument.sourceIndex.toNat, ⟨some argument.name, argument.type⟩)

/-- The places of a record of the given length, first all empty, after these fields and the
arguments are put in. -/
def filled (plan : ConversionPlan) (fields : List Field) (length : Nat) : List (Option Slot) :=
  (plan.entries fields).foldl fillSlot (List.replicate length none)

/-- A plan by which a projection with these fields becomes the record again. -/
structure Restores (plan : ConversionPlan) (record : Record) (fields : List Field) : Prop where
  /-- Every field of the projection has a place, each one once and in order. -/
  keeps : plan.kept.map Prod.snd = (List.range fields.length).map Int.ofNat
  keptOrdered : plan.keptIndices.Pairwise (· < ·)
  suppliedOrdered : plan.suppliedIndices.Pairwise (· < ·)
  /-- Every place of the record is filled exactly once. -/
  divides : (plan.keptIndices ++ plan.suppliedIndices).Perm
    ((List.range record.fields.length).map Int.ofNat)
  fills : plan.filled fields record.fields.length =
    record.fields.zipIdx.map fun (field, position) =>
      some (field.slot (plan.keptIndices.contains (Int.ofNat position)) position)

end ConversionPlan

section Filling
variable {entries : List (Nat × Slot)} {slots : List (Option Slot)} {position : Nat} {slot : Slot}

theorem length_fill (entries : List (Nat × Slot)) (slots : List (Option Slot)) :
    (entries.foldl fillSlot slots).length = slots.length := by
  induction entries generalizing slots with
  | nil => rfl
  | cons entry rest ih => rw [List.foldl_cons, ih, fillSlot, List.length_set]

theorem getElem?_fill_of_not_mem (absent : position ∉ entries.map Prod.fst) :
    (entries.foldl fillSlot slots)[position]? = slots[position]? := by
  induction entries generalizing slots with
  | nil => rfl
  | cons entry rest ih =>
    rw [List.map_cons, List.mem_cons, not_or] at absent
    rw [List.foldl_cons, ih absent.2, fillSlot, List.getElem?_set_ne (Ne.symm absent.1)]

theorem getElem?_fill (distinct : (entries.map Prod.fst).Nodup)
    (member : (position, slot) ∈ entries) (inside : position < slots.length) :
    (entries.foldl fillSlot slots)[position]? = some (some slot) := by
  induction entries generalizing slots with
  | nil => cases member
  | cons entry rest ih =>
    rw [List.map_cons, List.nodup_cons] at distinct
    rw [List.foldl_cons]
    rcases List.mem_cons.1 member with rfl | later
    · rw [getElem?_fill_of_not_mem distinct.1, fillSlot, List.getElem?_set_self inside]
    · exact ih distinct.2 later (by rwa [fillSlot, List.length_set])

end Filling

def ParsedField.argument (field : ParsedField) : ConversionArgument :=
  ⟨field.index, argumentName field.field field.index, field.field.type⟩

section Choice
variable {record : Record} (choose : ParsedField → Bool)

theorem mem_fields_of_getElem? {position : Nat} {field : Field}
    (stands : record.fields[position]? = some field) :
    field.parse record.name position ∈ record.parse.fields := by
  rw [parse_fields]
  exact List.mem_map_of_mem (List.mk_mem_zipIdx_iff_getElem?.2 stands)

theorem eq_of_index_eq {first second : ParsedField} (one : first ∈ record.parse.fields)
    (other : second ∈ record.parse.fields) (same : first.index = second.index) :
    first = second := by
  obtain ⟨position, field, stands, rfl⟩ := exists_of_mem_fields one
  obtain ⟨place, original, found, rfl⟩ := exists_of_mem_fields other
  rw [parse_index, parse_index, Int.natCast_inj] at same
  rw [same, found, Option.some.injEq] at stands
  rw [same, stands]

theorem contains_index {field : ParsedField} (member : field ∈ record.parse.fields) :
    ((record.parse.fields.filter choose).map ParsedField.index).contains field.index =
      choose field := by
  rw [List.contains_eq_mem, Bool.eq_iff_iff, decide_eq_true_eq]
  constructor
  · intro kept
    obtain ⟨other, among, same⟩ := List.mem_map.1 kept
    obtain ⟨listed, chosen⟩ := List.mem_filter.1 among
    rwa [eq_of_index_eq listed member same] at chosen
  · exact fun chosen => List.mem_map_of_mem (List.mem_filter.2 ⟨member, chosen⟩)

theorem arguments_conversionPlan :
    (conversionPlan record (record.parse.fields.filter choose)).arguments =
      (record.parse.fields.filter fun field => !choose field).map ParsedField.argument := by
  have parsed : record.parse.fields =
      record.indexedFields.map fun entry => entry.1.parse record.name entry.2 := rfl
  have left : ∀ entry ∈ record.indexedFields,
      (!((record.parse.fields.filter choose).map ParsedField.index).contains entry.2) =
        !choose (entry.1.parse record.name entry.2) := by
    intro entry listed
    have own : entry.1.parse record.name entry.2 ∈ record.parse.fields := by
      rw [parsed]
      exact List.mem_map_of_mem listed
    exact congrArg Bool.not (contains_index choose own)
  change (record.indexedFields.filter _).map _ = _
  rw [List.filter_congr left, parsed, List.filter_map, List.map_map]
  rfl

theorem keptIndices_conversionPlan (members : List ParsedField) :
    (conversionPlan record members).keptIndices = members.map ParsedField.index := by
  refine List.map_fst_zip (Nat.le_of_eq ?_)
  rw [positions, List.length_map, List.length_map, List.length_range]

theorem suppliedIndices_conversionPlan :
    (conversionPlan record (record.parse.fields.filter choose)).suppliedIndices =
      (record.parse.fields.filter fun field => !choose field).map ParsedField.index := by
  rw [ConversionPlan.suppliedIndices, arguments_conversionPlan, List.map_map]
  rfl

def ParsedField.entry (isKept : Bool) (field : ParsedField) : Nat × Slot :=
  (field.index.toNat, field.field.slot isKept field.index.toNat)

theorem kept_conversionPlan (members : List ParsedField) :
    (conversionPlan record members).kept =
      members.zipIdx.map fun entry => (entry.1.index, Int.ofNat entry.2) := by
  rw [conversionPlan]
  dsimp only
  rw [positions, List.length_map, List.zip_map, List.range_eq_range', ← List.zipIdx_eq_zip_range']
  rfl

theorem index_eq_ofNat {field : ParsedField} (member : field ∈ record.parse.fields) :
    field.index = Int.ofNat field.index.toNat := by
  obtain ⟨position, original, -, rfl⟩ := exists_of_mem_fields member
  rfl

theorem entries_conversionPlan (target : String) :
    (conversionPlan record (record.parse.fields.filter choose)).entries
        ((record.parse.fields.filter choose).map fun field => field.emit target) =
      (record.parse.fields.filter choose).map (ParsedField.entry true) ++
        (record.parse.fields.filter fun field => !choose field).map (ParsedField.entry false) := by
  rw [ConversionPlan.entries, kept_conversionPlan, arguments_conversionPlan, List.map_map]
  congr 1
  · have each : ∀ entry ∈ (record.parse.fields.filter choose).zipIdx,
        ((record.parse.fields.filter choose).map fun field => field.emit target)[entry.2]?.map
            (fun field => (entry.1.index.toNat, (⟨field.name, field.type⟩ : Slot))) =
          some (entry.1.entry true) := by
      intro entry member
      rw [List.getElem?_map, List.mem_zipIdx_iff_getElem?.1 member, ParsedField.entry, slot_kept]
      rfl
    rw [List.filterMap_map]
    refine (List.filterMap_congr each).trans ?_
    rw [List.filterMap_eq_map']
    conv_rhs => rw [← List.zipIdx_map_fst 0 (record.parse.fields.filter choose), List.map_map]
    rfl
  · refine List.map_congr_left fun field member => ?_
    rw [ParsedField.entry, slot_supplied, ← index_eq_ofNat (List.mem_filter.1 member).1]
    rfl

theorem indices_perm (record : Record) :
    ((record.parse.fields.filter choose).map ParsedField.index ++
        (record.parse.fields.filter fun field => !choose field).map ParsedField.index).Perm
      ((List.range record.fields.length).map Int.ofNat) := by
  rw [← List.map_append]
  have all := (List.filter_append_perm choose record.parse.fields).map ParsedField.index
  rwa [indices_eq_positions, positions] at all

theorem places_perm (record : Record) :
    (((record.parse.fields.filter choose).map (ParsedField.entry true) ++
        (record.parse.fields.filter fun field => !choose field).map
          (ParsedField.entry false)).map Prod.fst).Perm (List.range record.fields.length) := by
  have natural : ((List.range record.fields.length).map Int.ofNat).map Int.toNat =
      List.range record.fields.length := List.map_map.trans (List.map_id _)
  have places := (indices_perm choose record).map Int.toNat
  rw [natural, List.map_append, List.map_map, List.map_map] at places
  rw [List.map_append, List.map_map, List.map_map]
  exact places

theorem mem_entries {position : Nat} {field : Field}
    (stands : record.fields[position]? = some field) :
    (position, field.slot (choose (field.parse record.name position)) position) ∈
      (record.parse.fields.filter choose).map (ParsedField.entry true) ++
        (record.parse.fields.filter fun field => !choose field).map (ParsedField.entry false) := by
  have member := mem_fields_of_getElem? stands
  cases chosen : choose (field.parse record.name position) with
  | true =>
    have kept := List.mem_filter.2 ⟨member, chosen⟩
    exact List.mem_append_left _ (List.mem_map.2 ⟨_, kept, rfl⟩)
  | false =>
    have supplied : field.parse record.name position ∈
        record.parse.fields.filter fun field => !choose field :=
      List.mem_filter.2 ⟨member, by rw [chosen, Bool.not_false]⟩
    exact List.mem_append_right _ (List.mem_map.2 ⟨_, supplied, rfl⟩)

theorem filled_conversionPlan (target : String) :
    (conversionPlan record (record.parse.fields.filter choose)).filled
        ((record.parse.fields.filter choose).map fun field => field.emit target)
        record.fields.length =
      record.fields.zipIdx.map fun (field, position) =>
        some (field.slot (((record.parse.fields.filter choose).map ParsedField.index).contains
          (Int.ofNat position)) position) := by
  have distinct := (places_perm choose record).nodup_iff.2 List.nodup_range
  rw [ConversionPlan.filled, entries_conversionPlan]
  refine List.ext_getElem? fun position => ?_
  cases stands : record.fields[position]? with
  | none =>
    have outside := List.getElem?_eq_none_iff.1 stands
    rw [List.getElem?_eq_none (by rwa [length_fill, List.length_replicate])]
    simp [stands]
  | some field =>
    have inside := (List.getElem?_eq_some_iff.1 stands).1
    have kept : _ = choose (field.parse record.name position) :=
      contains_index choose (mem_fields_of_getElem? stands)
    rw [getElem?_fill distinct (mem_entries choose stands) (by rwa [List.length_replicate]),
      List.getElem?_map, List.getElem?_zipIdx, stands, ← kept]
    simp

theorem restores_conversionPlan (target : String) :
    (conversionPlan record (record.parse.fields.filter choose)).Restores record
      ((record.parse.fields.filter choose).map fun field => field.emit target) where
  keeps := by
    rw [kept_conversionPlan, List.map_map, List.length_map, List.range_eq_range',
      ← List.zipIdx_map_snd, List.map_map]
    rfl
  keptOrdered := by
    rw [keptIndices_conversionPlan]
    exact (indices_pairwise record).sublist (List.filter_sublist.map _)
  suppliedOrdered := by
    rw [suppliedIndices_conversionPlan]
    exact (indices_pairwise record).sublist (List.filter_sublist.map _)
  divides := by
    rw [keptIndices_conversionPlan, suppliedIndices_conversionPlan]
    exact indices_perm choose record
  fills := by
    rw [keptIndices_conversionPlan]
    exact filled_conversionPlan choose target

end Choice

theorem ConversionPlan.Restores.types {plan : ConversionPlan} {record : Record}
    {fields : List Field} (restores : plan.Restores record fields) :
    (plan.filled fields record.fields.length).map (Option.map Slot.type) =
      record.fields.map fun field => some field.type := by
  rw [restores.fills, List.map_map]
  conv_rhs => rw [← List.zipIdx_map_fst 0 record.fields, List.map_map]
  rfl

/-- Every projection carries a plan that restores its record: what it keeps, where it keeps it, and
what has to be supplied make up all fields of the record, each of them once. -/
theorem projections_restore {record : Record} {expansion : Expansion}
    (expanded : record.expand = .ok expansion) :
    ∀ definition ∈ expansion.definitions.tail, ∃ plan,
      definition.conversion = some plan ∧
      plan.keptIndices = definition.sourceIndices ∧
      plan.Restores record definition.fields ∧
      (plan.filled definition.fields record.fields.length).map (Option.map Slot.type) =
        record.fields.map fun field => some field.type := by
  intro definition member
  rw [expand_eq, Except.ok.injEq] at expanded
  subst expanded
  dsimp only at member
  split at member
  · obtain ⟨spec, listed, rfl⟩ := List.mem_map.1 member
    have members : spec.fields = record.parse.members spec.name := (mem_projections listed).1
    have restores : (conversionPlan record spec.fields).Restores record
        (record.parse.projectionDefinition spec).fields := by
      change ConversionPlan.Restores _ record (spec.fields.map fun field => field.emit spec.name)
      rw [members]
      exact restores_conversionPlan (fun field => field.membership.includes spec.name) spec.name
    exact ⟨conversionPlan record spec.fields, rfl, keptIndices_conversionPlan spec.fields,
      restores, restores.types⟩
  · cases member

def gappedRecord : Record where
  name := "Query"
  annotations := ["substruct(Pair)"]
  fields :=
    [⟨none, "", "u8", ["substruct(Pair)"]⟩, ⟨some "key", "pub", "String", []⟩,
      ⟨none, "", "Vec<u8>", []⟩, ⟨some "limit", "", "usize", ["substruct(Pair)"]⟩]

def gappedPlan : ConversionPlan where
  source := "Query"
  method := "into_query"
  kept := [(0, 0), (3, 1)]
  arguments := [⟨1, "key", "String"⟩, ⟨2, "arg2", "Vec<u8>"⟩]

def gappedPair : Definition where
  name := "Pair"
  fields := [⟨none, "", "u8", []⟩, ⟨some "limit", "", "usize", []⟩]
  sourceIndices := [0, 3]
  conversion := some gappedPlan

theorem projections_restore_gapped :
    ∃ expansion, gappedRecord.expand = .ok expansion ∧ gappedPair ∈ expansion.definitions.tail ∧
      ∃ plan, gappedPair.conversion = some plan ∧
        plan.keptIndices = gappedPair.sourceIndices ∧
        plan.Restores gappedRecord gappedPair.fields ∧
        (plan.filled gappedPair.fields gappedRecord.fields.length).map (Option.map Slot.type) =
          gappedRecord.fields.map fun field => some field.type := by
  have clean : gappedRecord.diagnostics = [] := by decide +kernel
  have expanded : gappedRecord.expand =
      .ok ⟨gappedRecord.parse, [], gappedRecord.parse.allDefinitions⟩ := by
    rw [expand_eq, clean]
    rfl
  have member : gappedPair ∈ gappedRecord.parse.allDefinitions.tail := by decide +kernel
  exact ⟨_, expanded, member, projections_restore expanded gappedPair member⟩

example : gappedPlan.filled gappedPair.fields 4 =
    [some ⟨none, "u8"⟩, some ⟨some "key", "String"⟩, some ⟨some "arg2", "Vec<u8>"⟩,
      some ⟨some "limit", "usize"⟩] := by decide

end RecordProjection
