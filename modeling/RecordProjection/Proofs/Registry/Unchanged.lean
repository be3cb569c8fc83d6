import RecordProjection.Proofs.Registry.Preservation

/-! Records that are written as they were read. They are read again with absent bounds for empty
ones, and with line feeds for the line ends of their annotations. Nothing else changes, and a
registry without such bounds and without carriage returns comes back as it was. -/

namespace RecordProjection
open Markup Text

/-- A record as it is read after it has been written as it stands. -/
def Record.reread (record : Record) : Record :=
  { record with
    generics := record.generics.map Generic.settled
    annotations := record.annotations.map lineFedText
    fields := record.fields.map Field.lineFed }

theorem reread_eq_self_iff (record : Record) :
    record.reread = record ↔ (∀ generic ∈ record.generics, generic.bounds ≠ some "") ∧
      ∀ note ∈ record.allAnnotations, '\r' ∉ note.toList := by
  rw [Record.allAnnotations, List.forall_mem_append, ← settled_map_eq_self_iff,
    ← lineFedText_map_eq_self_iff, ← lineFed_fields_eq_self_iff]
  constructor
  · intro same
    exact ⟨congrArg Record.generics same, congrArg Record.annotations same,
      congrArg Record.fields same⟩
  · rintro ⟨generics, annotations, fields⟩
    rw [Record.reread, generics, annotations, fields]

/-- What was read and is written as it stands is read again, in the same order: with absent bounds
for empty ones and with line feeds for the line ends of annotations. It is what it was just where
there are no such bounds, and no carriage returns in annotations. -/
theorem written_through {octets : ByteArray} {records : List Record}
    (accepted : readRecords octets = .ok records) :
    readRecords (registryDocument (records.map Record.unchanged)).toUTF8 =
        .ok (records.map Record.reread) ∧
      (records.map Record.reread = records ↔ ∀ record ∈ records,
        (∀ generic ∈ record.generics, generic.bounds ≠ some "") ∧
          ∀ note ∈ record.allAnnotations, '\r' ∉ note.toList) := by
  have promised := promised_of_readRecords accepted
  have read := readRecords_of_storable
    (List.forall_mem_map.2 fun record member => (promised record member).writable)
    (List.forall_mem_map.2 fun record member => (promised record member).storable)
  rw [List.map_map] at read
  refine ⟨read, ?_⟩
  simp only [map_eq_self_iff, reread_eq_self_iff]

def unsettledDocument : String :=
  "<?xml version=\"1.0\" encoding=\"utf-8\"?>\n<records><record name=\"R\">" ++
    "<generic name=\"T\" bounds=\"\" /><annotation>a&#13;b</annotation></record></records>\n"

def unsettledRecord : Record where
  name := "R"
  generics := [⟨"T", some ""⟩]
  annotations := ["a\rb"]

def settledRecord : Record where
  name := "R"
  generics := [⟨"T", none⟩]
  annotations := ["a\nb"]

theorem grow_numberedReturn {opened : List OpenElement} (outer : currentScope opened = outerScope)
    (rest : List Char) :
    grow {} [] 0 opened (pieces .complete ("<annotation>a&#13;b</annotation>".toList ++ rest)) =
      growBehind (annotationElement "a\rb") opened rest := by
  let behind := writtenEnd "annotation" rest
  have written : "<annotation>a&#13;b</annotation>".toList ++ rest =
      '<' :: ("annotation".toList ++ writtenAttributes [] false
        ('a' :: '&' :: ("#13;".toList ++ 'b' :: behind))) := rfl
  have mark : scanReference ("#13;".toList ++ 'b' :: behind) =
      .ok (.character (some '\r'), 'b' :: behind) := rfl
  have bare : WritableAttributes [] :=
    writableAttributes_of_names [] rfl (List.Sublist.refl _) (List.forall_mem_nil _)
  rw [written, grow_startTag (by decide) bare outer, if_neg (by decide),
    grow_ordinary {} _ (by decide) (by decide) (by decide) _ (by simp),
    grow_reference {} _ mark (.number _),
    grow_ordinary {} _ (by decide) (by decide) (by decide) _ (by simp [behind, writtenEnd]),
    addText_addText, addText_addText, addText, grow_endTag (by decide) rfl]
  rfl

theorem readDocument_unsettledDocument :
    readDocument unsettledDocument.toUTF8 = .ok ⟨"records", [], "", [⟨"record", [("name", "R")], "",
      [⟨"generic", [("name", "T"), ("bounds", "")], "", []⟩, annotationElement "a\rb"]⟩]⟩ := by
  let ends := writtenEnd "record" (writtenEnd "records" ['\n'])
  let annotation := "<annotation>a&#13;b</annotation>".toList ++ ends
  let generic := '<' :: ("generic".toList ++
    writtenAttributes [("name", "T"), ("bounds", "")] true annotation)
  let record := '<' :: ("record".toList ++ writtenAttributes [("name", "R")] false generic)
  have written : unsettledDocument = .ofList (documentLine.toList ++
      '<' :: ("records".toList ++ writtenAttributes [] false record)) := by
    decide +kernel
  have names : ∀ attributes ∈ [[], [("name", "R")], [("name", "T"), ("bounds", "")]],
      WritableAttributes attributes := by
    simp only [List.forall_mem_cons]
    exact ⟨⟨by decide, by decide, by decide, by decide⟩,
      ⟨by decide, by decide, by decide, by decide⟩,
      ⟨by decide, by decide, by decide, by decide⟩, List.forall_mem_nil _⟩
  -- Tag by tag, as the recursion of the reader cannot be evaluated.
  rw [written]
  refine readDocument_of_grow (by decide) ?_
  rw [grow_startTag (by decide) (names _ (by decide)) rfl, if_neg (by decide),
    grow_startTag (by decide) (names _ (by decide)) rfl, if_neg (by decide),
    grow_startTag (by decide) (names _ (by decide)) rfl, if_pos rfl, growBehind, attach]
  dsimp only
  rw [grow_numberedReturn rfl, growBehind, attach]
  dsimp only
  rw [grow_endTag (by decide) rfl, growBehind, attach]
  dsimp only
  rw [grow_endTag (by decide) rfl]
  rfl

theorem readRecords_unsettledDocument :
    readRecords unsettledDocument.toUTF8 = .ok [unsettledRecord] := by
  rw [readRecords_of_root readDocument_unsettledDocument]
  rfl

theorem readRecords_settled :
    readRecords (registryDocument ([unsettledRecord].map Record.unchanged)).toUTF8 =
      .ok [settledRecord] := by
  have each : ∀ definition ∈ [unsettledRecord].map Record.unchanged,
      definition.Writable ∧ definition.Storable := by decide +kernel
  rw [readRecords_of_storable (fun definition member => (each definition member).1)
    fun definition member => (each definition member).2]
  rfl

theorem not_written_through_exactly :
    readRecords unsettledDocument.toUTF8 = .ok [unsettledRecord] ∧
      readRecords (registryDocument ([unsettledRecord].map Record.unchanged)).toUTF8 =
        .ok [settledRecord] ∧
      settledRecord.generics ≠ unsettledRecord.generics ∧
      settledRecord.annotations ≠ unsettledRecord.annotations :=
  ⟨readRecords_unsettledDocument, readRecords_settled, by decide, by decide⟩

theorem written_through_unsettled :
    readRecords (registryDocument ([unsettledRecord].map Record.unchanged)).toUTF8 =
        .ok [settledRecord] ∧
      readRecords (registryDocument ([settledRecord].map Record.unchanged)).toUTF8 =
        .ok [settledRecord] := by
  have once : [unsettledRecord].map Record.reread = [settledRecord] := by decide
  have twice : [settledRecord].map Record.reread = [settledRecord] :=
    (written_through readRecords_settled).2.2 (by decide)
  refine ⟨?_, ?_⟩
  · rw [(written_through readRecords_unsettledDocument).1, once]
  · rw [(written_through readRecords_settled).1, twice]

end RecordProjection
