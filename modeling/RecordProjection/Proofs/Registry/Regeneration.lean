import RecordProjection.Proofs.Projection.Selection
import RecordProjection.Proofs.Registry.Readback
import RecordProjection.Proofs.Registry.Settling

/-! Generation from a generated registry. The document that is generated for a selection is read
back, and generating from it for another selection is generating from the registry itself for the
combined one. So generation for the empty selection changes nothing when it is repeated. -/

namespace RecordProjection
open Directive Markup Text

/-- The document that is generated for a selection. There is none if the list of records is refused
or if an index is too long to be converted to its digits. -/
def generated? (records : List Record) (selected : List String) : Option String :=
  match expandRecords records selected with
  | .error _ => none
  | .ok outcomes =>
    let definitions := outcomes.flatMap Outcome.definitions
    if (definitions.flatMap Definition.indices).all isConvertible then
      some (registryDocument definitions)
    else none

theorem registryDocument_of_written {definitions others : List Definition}
    (same : definitions.map Definition.written = others.map Definition.written) :
    registryDocument definitions = registryDocument others := by
  have elements := congrArg (List.map Prod.fst) same
  rw [List.map_map, List.map_map] at elements
  exact congrArg (fun children => renderDocument { tag := "records", children }) elements

theorem indices_of_written {definitions others : List Definition}
    (same : definitions.map Definition.written = others.map Definition.written) :
    definitions.flatMap Definition.indices = others.flatMap Definition.indices := by
  have indices := congrArg (List.flatMap Prod.snd) same
  rwa [List.flatMap_map, List.flatMap_map] at indices

def emittedFor (selected : List String) (records : List Record) : List Definition :=
  records.flatMap (Record.emitted selected)

theorem generated?_eq (records : List Record) (selected : List String) :
    generated? records selected =
      if (∀ record ∈ records, record.IsAccepted selected) ∧
          ((emittedFor selected records).flatMap Definition.indices).all isConvertible = true then
        some (registryDocument (emittedFor selected records))
      else none := by
  unfold generated?
  rw [expandRecords_eq]
  have accepted := flatMap_objections_eq_nil_iff selected records
  cases found : records.flatMap (Record.objections selected) with
  | cons first rest =>
    rw [found] at accepted
    rw [if_neg fun both => List.cons_ne_nil _ _ (accepted.2 both.1)]
  | nil =>
    dsimp only
    rw [List.flatMap_map]
    change (if ((emittedFor selected records).flatMap _).all _ = true then _ else _) = _
    congr 1
    exact propext (and_iff_right (accepted.1 found)).symm

theorem generated?_congr {records others : List Record} {selected wanted : List String}
    (accepted : (∀ record ∈ records, record.IsAccepted selected) ↔
      ∀ record ∈ others, record.IsAccepted wanted)
    (same : (emittedFor selected records).map Definition.written =
      (emittedFor wanted others).map Definition.written) :
    generated? records selected = generated? others wanted := by
  rw [generated?_eq, generated?_eq, indices_of_written same, registryDocument_of_written same]
  simp only [accepted]

theorem isSelected_of_undirected {record : Record} (undirected : record.usesDirectives = false)
    (selected : List String) : isSelected selected record = false := by
  rw [isSelected, undirected, Bool.and_false]

def Record.again (selected : List String) (record : Record) : List Record :=
  (record.emitted selected).map Definition.record

theorem undirected_again {selected : List String} {record : Record}
    (selects : isSelected selected record = true) :
    ∀ next ∈ record.again selected, next.usesDirectives = false := by
  unfold Record.again Record.emitted
  rw [if_pos selects]
  exact List.forall_mem_map.2 fun definition member =>
    undirected_record (undirected_of_mem member)

theorem again_of_not_selected {selected : List String} {record : Record}
    (kept : isSelected selected record = false) : record.again selected = [record.settled] := by
  unfold Record.again Record.emitted
  rw [kept]
  rfl

theorem accepted_again {first second : List String} {record : Record}
    (accepted : record.IsAccepted first) :
    (∀ next ∈ record.again first, next.IsAccepted second) ↔
      record.IsAccepted (combined first second) := by
  unfold Record.IsAccepted at accepted ⊢
  rw [isSelected_combined]
  -- What the first selection expands has nothing left for the second; anything else is as it was.
  by_cases selects : isSelected first record = true
  · have quiet : ∀ next ∈ record.again first, isSelected second next = true →
        next.diagnostics = [] := by
      intro next member wanted
      rw [isSelected_of_undirected (undirected_again selects next member)] at wanted
      cases wanted
    exact iff_of_true quiet fun _ => accepted selects
  · rw [Bool.not_eq_true] at selects
    rw [again_of_not_selected selects, List.forall_mem_singleton, diagnostics_settled, selects,
      Bool.false_or]
    rfl

theorem written_again (first second : List String) (record : Record) :
    ((record.again first).flatMap (Record.emitted second)).map Definition.written =
      (record.emitted (combined first second)).map Definition.written := by
  by_cases selects : isSelected first record = true
  · have unchanged : (record.again first).flatMap (Record.emitted second) =
        (record.again first).map Record.unchanged := by
      rw [List.map_eq_flatMap]
      refine List.flatMap_congr fun next member => ?_
      rw [Record.emitted, isSelected_of_undirected (undirected_again selects next member)]
      rfl
    have both : isSelected (combined first second) record = true := by
      rw [isSelected_combined, selects, Bool.true_or]
    rw [unchanged, Record.again, Record.emitted, Record.emitted, if_pos selects, if_pos both,
      List.map_map, List.map_map]
    exact List.map_congr_left fun definition _ => written_unchanged definition
  · rw [Bool.not_eq_true] at selects
    have same : isSelected second record.settled = isSelected (combined first second) record := by
      rw [isSelected_combined, selects, Bool.false_or]
      rfl
    rw [again_of_not_selected selects, List.flatMap_singleton, Record.emitted, Record.emitted, same]
    by_cases wanted : isSelected (combined first second) record = true
    · rw [if_pos wanted, if_pos wanted, allDefinitions_settled, List.map_map]
      exact List.map_congr_left fun definition _ => written_settled definition
    · rw [if_neg wanted, if_neg wanted]
      exact congrArg (· :: []) (written_settled record.unchanged)

theorem storable_emittedFor {records : List Record} {selected : List String}
    (promised : ∀ record ∈ records, record.Promised)
    (convertible : ∀ index ∈ (emittedFor selected records).flatMap Definition.indices,
      isConvertible index = true) :
    ∀ definition ∈ emittedFor selected records, definition.Writable ∧ definition.Storable := by
  intro definition member
  have own : ∀ index ∈ definition.indices, isConvertible index = true := fun index inside =>
    convertible index (List.mem_flatMap.2 ⟨definition, member, inside⟩)
  obtain ⟨record, stands, emitted⟩ := List.mem_flatMap.1 member
  have kept := promised record stands
  unfold Record.emitted at emitted
  split at emitted
  · have derives := derives_of_mem emitted
    exact ⟨derives.writable kept, derives.storable kept.storable own⟩
  · obtain rfl := List.mem_singleton.1 emitted
    exact ⟨kept.writable, kept.storable⟩

theorem convertible_emittedFor {records : List Record} (selected : List String)
    (promised : ∀ record ∈ records, record.Promised)
    (short : ∀ record ∈ records, record.fields.length ≤ 10 ^ maxDigits) :
    ∀ index ∈ (emittedFor selected records).flatMap Definition.indices,
      isConvertible index = true := by
  intro index inside
  obtain ⟨definition, member, own⟩ := List.mem_flatMap.1 inside
  obtain ⟨record, stands, emitted⟩ := List.mem_flatMap.1 member
  have storable := (promised record stands).storable
  unfold Record.emitted at emitted
  split at emitted
  · exact convertible_of_mem storable (short record stands) emitted index own
  · obtain rfl := List.mem_singleton.1 emitted
    exact storable.convertible index own

theorem names_generated {records : List Record} (selected : List String)
    (promised : ∀ record ∈ records, record.Promised)
    (short : ∀ record ∈ records, record.fields.length ≤ 10 ^ maxDigits) :
    ∃ again,
      readRecords (registryDocument (emittedFor selected records)).toUTF8 = .ok again ∧
        again.map Record.name = (emittedFor selected records).map Definition.name := by
  have storable :=
    storable_emittedFor promised (convertible_emittedFor selected promised short)
  refine ⟨_, readRecords_of_storable (fun definition member => (storable definition member).1)
    fun definition member => (storable definition member).2, ?_⟩
  rw [List.map_map]
  rfl

theorem plain_emittedFor {records : List Record} {selected : List String}
    (plain : ∀ record ∈ records, ∀ note ∈ record.allAnnotations, '\r' ∉ note.toList) :
    ∀ definition ∈ emittedFor selected records,
      ∀ note ∈ definition.allAnnotations, '\r' ∉ note.toList := by
  intro definition member
  obtain ⟨record, stands, emitted⟩ := List.mem_flatMap.1 member
  unfold Record.emitted at emitted
  split at emitted
  · exact (derives_of_mem emitted).plain (plain record stands)
  · obtain rfl := List.mem_singleton.1 emitted
    exact plain record stands

theorem readRecords_generated {records : List Record} {selected : List String}
    (promised : ∀ record ∈ records, record.Promised)
    (plain : ∀ record ∈ records, ∀ note ∈ record.allAnnotations, '\r' ∉ note.toList)
    (convertible : ∀ index ∈ (emittedFor selected records).flatMap Definition.indices,
      isConvertible index = true) :
    readRecords (registryDocument (emittedFor selected records)).toUTF8 =
      .ok (records.flatMap (Record.again selected)) := by
  have storable := storable_emittedFor promised convertible
  rw [readRecords_of_plain (fun definition member => (storable definition member).1)
    (fun definition member => (storable definition member).2) (plain_emittedFor plain),
    emittedFor, List.map_flatMap]
  rfl

/-- Generating for a selection and then, from what has been read back, for another one gives what
the combined selection gives at once, whether that is a document or nothing. -/
theorem generation_again {octets : ByteArray} {records : List Record} {first : List String}
    {document : String} (accepted : readRecords octets = .ok records)
    (plain : ∀ record ∈ records, ∀ note ∈ record.allAnnotations, '\r' ∉ note.toList)
    (generated : generated? records first = some document) :
    ∃ again, readRecords document.toUTF8 = .ok again ∧
      (∀ second, generated? again second = generated? records (combined first second)) ∧
      (first = [] → generated? again [] = some document ∧
        ∀ record ∈ again, record.usesDirectives = false) := by
  have sources := generated
  rw [generated?_eq] at sources
  split at sources
  case isFalse => cases sources
  rename_i sound
  obtain ⟨quiet, convertible⟩ := sound
  cases sources
  -- Both sides go through the records one by one, in the same order.
  have composed : ∀ second, generated? (records.flatMap (Record.again first)) second =
      generated? records (combined first second) := by
    intro second
    apply generated?_congr
    · rw [List.forall_mem_flatMap]
      exact forall₂_congr fun record member => accepted_again (quiet record member)
    · rw [emittedFor, emittedFor, List.flatMap_assoc, List.map_flatMap, List.map_flatMap]
      exact List.flatMap_congr fun record _ => written_again first second record
  refine ⟨records.flatMap (Record.again first),
    readRecords_generated (promised_of_readRecords accepted) plain (List.all_eq_true.1 convertible),
    composed, ?_⟩
  rintro rfl
  refine ⟨(composed []).trans generated, ?_⟩
  simp only [List.forall_mem_flatMap]
  intro record member
  by_cases selects : isSelected [] record = true
  · exact undirected_again selects
  · rw [Bool.not_eq_true] at selects
    rw [again_of_not_selected selects, List.forall_mem_singleton]
    exact selects

def storedRecords : List Record :=
  [{ name := "Row"
     annotations := ["substruct(Cell)", "derive(Clone)"]
     fields := [⟨some "id", "pub", "u64", ["substruct(\"Its key.\" Cell)"]⟩, ⟨none, "", "u8", []⟩]
     conversion := some ⟨"Table", "into_table", [(1, 0)], [⟨0, "arg0", "Vec<u8>"⟩]⟩ },
    { name := "Cell"
      generics := [⟨"T", some "Clone"⟩]
      annotations := ["substruct(Row)", "substruct_attr(Row, derive(Debug))"]
      fields := [⟨none, "", "T", ["substruct(Row)"]⟩] }]

def storedOctets : ByteArray := (registryDocument (storedRecords.map Record.unchanged)).toUTF8

theorem readRecords_storedOctets : readRecords storedOctets = .ok storedRecords := by
  have each : ∀ definition ∈ storedRecords.map Record.unchanged,
      definition.Writable ∧ definition.Storable := by decide +kernel
  have settled : ((storedRecords.map Record.unchanged).map fun definition =>
      definition.lineFed.record) = storedRecords := by
    decide +kernel
  rw [storedOctets, readRecords_of_storable (fun definition member => (each definition member).1)
    fun definition member => (each definition member).2, settled]

theorem generation_again_stored :
    (∃ document again, generated? storedRecords ["Row"] = some document ∧
      readRecords document.toUTF8 = .ok again ∧
      ∀ second, generated? again second = generated? storedRecords (combined ["Row"] second)) ∧
    ∃ document again, generated? storedRecords [] = some document ∧
      readRecords document.toUTF8 = .ok again ∧ generated? again [] = some document ∧
      ∀ record ∈ again, record.usesDirectives = false := by
  have plain : ∀ record ∈ storedRecords, ∀ note ∈ record.allAnnotations, '\r' ∉ note.toList := by
    decide +kernel
  have sound : ∀ first ∈ [[], ["Row"]], (∀ record ∈ storedRecords, record.IsAccepted first) ∧
      ((emittedFor first storedRecords).flatMap Definition.indices).all isConvertible = true := by
    decide +kernel
  have generated (first : List String) (listed : first ∈ [[], ["Row"]]) :
      generated? storedRecords first =
        some (registryDocument (emittedFor first storedRecords)) := by
    rw [generated?_eq, if_pos (sound first listed)]
  constructor
  · have document := generated ["Row"] (by decide)
    obtain ⟨again, read, composed, -⟩ :=
      generation_again readRecords_storedOctets plain document
    exact ⟨_, again, document, read, composed⟩
  · have document := generated [] (by decide)
    obtain ⟨again, read, -, repeated⟩ :=
      generation_again readRecords_storedOctets plain document
    exact ⟨_, again, document, read, repeated rfl⟩

end RecordProjection
