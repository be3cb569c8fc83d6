import RecordProjection.Proofs.Registry.Acceptance

/-! What a tree of elements is refused for. Indices are checked for digits before they are read, and
a text of digits need be no numeral: digits may be ornamental, or too many. Such an index breaks the
reading with a fault of its own. Every other tree is read, or refused for what the schema asks. -/

namespace RecordProjection
open Markup Text

structure IndexAttribute where
  element : Element
  key : String

namespace IndexAttribute

def text (index : IndexAttribute) : String := (index.element.attribute? index.key).getD ""

def read (index : IndexAttribute) (record : String) : Except RegistryFault Int :=
  indexOf record index.key index.element

/-- Digits that are not read as a number, although the check lets them pass. -/
def Breaks (index : IndexAttribute) (cause : NumeralFault) : Prop :=
  looksNumeric index.text = true ∧ readNumeral index.text = .error cause

end IndexAttribute

def planIndices (plan : Element) : List IndexAttribute :=
  (plan.childrenTagged "keep").flatMap (fun kept => [⟨kept, "source-index"⟩, ⟨kept, "index"⟩]) ++
    (plan.childrenTagged "argument").map fun argument => ⟨argument, "source-index"⟩

def indicesOf (root : Element) : List IndexAttribute :=
  (root.childrenTagged "record").flatMap fun record =>
    (record.childTagged? "conversion").toList.flatMap planIndices

/-- Something that the schema asks for and the tree does not have. -/
def RegistryFault.OfSchema (fault : RegistryFault) : Prop :=
  ∀ cause, fault ≠ .unreadableIndex cause

section Readings
variable {record : String} {element : Element} {cause : NumeralFault}

theorem IndexAttribute.read_eq (index : IndexAttribute) (record : String) :
    index.read record =
      if looksNumeric index.text then
        match readNumeral index.text with
        | .ok number => .ok number
        | .error cause => .error (.unreadableIndex cause)
      else .error (.invalidIndex record index.element.tag index.key index.text) := rfl

theorem breaks_of_read {index : IndexAttribute}
    (failed : index.read record = .error (.unreadableIndex cause)) : index.Breaks cause := by
  rw [index.read_eq] at failed
  split at failed
  · rename_i digits
    split at failed
    · cases failed
    · rename_i found
      cases failed
      exact ⟨digits, found⟩
  · cases failed

theorem read_of_isNumeral {index : IndexAttribute} (digits : looksNumeric index.text = true)
    (numeral : IsNumeral index.text) :
    ∃ number : Nat, ∀ record, index.read record = .ok number := by
  obtain ⟨number, found⟩ := (readNumeral_eq_ok_iff index.text).2 numeral
  exact ⟨number, fun record => by rw [index.read_eq, if_pos digits, found]⟩

theorem fieldOf_ofSchema {fault : RegistryFault}
    (failed : Field.ofElement record element = .error fault) : fault.OfSchema := by
  unfold Field.ofElement at failed
  dsimp only at failed
  split at failed
  · cases failed
    exact fun _ => by simp
  · cases failed

theorem breaks_of_planOf
    (failed : ConversionPlan.ofElement record element = .error (.unreadableIndex cause)) :
    ∃ index ∈ planIndices element, index.Breaks cause := by
  unfold ConversionPlan.ofElement at failed
  dsimp only at failed
  split at failed
  · cases failed
  rcases bind_eq_error failed with failed | ⟨kept, -, failed⟩
  · obtain ⟨child, listed, failed⟩ := mem_of_mapM_error failed
    have both : ∀ index ∈ [(⟨child, "source-index"⟩ : IndexAttribute), ⟨child, "index"⟩],
        index ∈ planIndices element := fun index member =>
      List.mem_append_left _ (List.mem_flatMap.2 ⟨child, listed, member⟩)
    rcases bind_eq_error failed with failed | ⟨source, -, failed⟩
    · exact ⟨⟨child, "source-index"⟩, both _ (by simp), breaks_of_read failed⟩
    · rcases bind_eq_error failed with failed | ⟨index, -, failed⟩
      · exact ⟨⟨child, "index"⟩, both _ (by simp), breaks_of_read failed⟩
      · cases failed
  · rcases bind_eq_error failed with failed | ⟨arguments, -, failed⟩
    · obtain ⟨child, listed, failed⟩ := mem_of_mapM_error failed
      rcases bind_eq_error failed with failed | ⟨source, -, failed⟩
      · exact ⟨⟨child, "source-index"⟩,
          List.mem_append_right _ (List.mem_map_of_mem listed), breaks_of_read failed⟩
      · cases failed
    · cases failed

theorem breaks_of_recordOf
    (failed : Record.ofElement element = .error (.unreadableIndex cause)) :
    ∃ plan, element.childTagged? "conversion" = some plan ∧
      ∃ index ∈ planIndices plan, index.Breaks cause := by
  unfold Record.ofElement at failed
  dsimp only at failed
  split at failed
  · rcases bind_eq_error failed with failed | ⟨fields, -, failed⟩
    · obtain ⟨child, -, failed⟩ := mem_of_mapM_error failed
      exact absurd rfl (fieldOf_ofSchema failed cause)
    · rcases bind_eq_error failed with failed | ⟨plan, -, failed⟩
      · obtain ⟨plan, given, failed⟩ := some_of_mapM_error failed
        exact ⟨plan, given, breaks_of_planOf failed⟩
      · cases failed
  · cases failed

/-- Nothing but an index that breaks the reading keeps a tree from being judged by the schema. -/
theorem breaks_of_recordsOf {root : Element}
    (failed : recordsOf root = .error (.unreadableIndex cause)) :
    ∃ index ∈ indicesOf root, index.Breaks cause := by
  unfold recordsOf at failed
  split at failed
  · obtain ⟨child, listed, failed⟩ := mem_of_mapM_error failed
    obtain ⟨plan, given, index, member, breaks⟩ := breaks_of_recordOf failed
    refine ⟨index, List.mem_flatMap.2 ⟨child, listed, ?_⟩, breaks⟩
    rw [given, Option.toList_some, List.flatMap_singleton]
    exact member
  · cases failed

end Readings

/-- A tree is read, or refused for something that the schema asks for, if all indices that consist
of digits are numerals; and then each of them is read as a number. -/
theorem read_or_refused (root : Element)
    (numerals : ∀ index ∈ indicesOf root, looksNumeric index.text = true → IsNumeral index.text) :
    ((∃ records, recordsOf root = .ok records) ∨
        ∃ fault, recordsOf root = .error fault ∧ fault.OfSchema) ∧
      ∀ index ∈ indicesOf root, looksNumeric index.text = true →
        ∃ number : Nat, ∀ record, index.read record = .ok number := by
  refine ⟨?_, fun index member digits => read_of_isNumeral digits (numerals index member digits)⟩
  cases outcome : recordsOf root with
  | ok records => exact .inl ⟨records, rfl⟩
  | error fault =>
    refine .inr ⟨fault, rfl, ?_⟩
    rintro cause rfl
    obtain ⟨index, member, digits, unread⟩ := breaks_of_recordsOf outcome
    obtain ⟨number, found⟩ := (readNumeral_eq_ok_iff _).2 (numerals index member digits)
    rw [found] at unread
    cases unread

def keptAt (index : String) : Element where
  tag := "records"
  children := [{
    tag := "record"
    attributes := [("name", "R")]
    children := [{
      tag := "conversion"
      attributes := [("from", "A"), ("method", "m")]
      children := [{
        tag := "keep"
        attributes := [("source-index", index), ("index", "0")] }] }] }]

theorem read_or_refused_kept :
    (∀ index ∈ indicesOf (keptAt "٣"), looksNumeric index.text = true → IsNumeral index.text) ∧
      ((∃ records, recordsOf (keptAt "٣") = .ok records) ∨
        ∃ fault, recordsOf (keptAt "٣") = .error fault ∧ fault.OfSchema) ∧
      ∀ index ∈ indicesOf (keptAt "٣"), looksNumeric index.text = true →
        ∃ number : Nat, ∀ record, index.read record = .ok number := by
  have numerals : ∀ index ∈ indicesOf (keptAt "٣"),
      looksNumeric index.text = true → IsNumeral index.text := by
    have texts : (indicesOf (keptAt "٣")).map IndexAttribute.text = ["٣", "0"] := by
      decide +kernel
    have three : readNumeral "٣" = .ok 3 := by decide +kernel
    have zero : readNumeral "0" = .ok 0 := by decide +kernel
    intro index member _
    have listed : index.text ∈ ["٣", "0"] := texts ▸ List.mem_map_of_mem member
    obtain same | same : index.text = "٣" ∨ index.text = "0" := by simpa using listed
    all_goals rw [same]
    · exact (readNumeral_eq_ok three).1
    · exact (readNumeral_eq_ok zero).1
  exact ⟨numerals, read_or_refused (keptAt "٣") numerals⟩

theorem not_read_or_refused :
    ¬ ∀ root : Element, (∃ records, recordsOf root = .ok records) ∨
      ∃ fault, recordsOf root = .error fault ∧ fault.OfSchema := by
  intro judged
  have broken : recordsOf (keptAt "²") = .error (.unreadableIndex (.unreadable "²")) := by
    decide +kernel
  rcases judged (keptAt "²") with ⟨records, read⟩ | ⟨fault, failed, schema⟩
  · rw [broken] at read
    cases read
  · rw [broken] at failed
    cases failed
    exact schema _ rfl

end RecordProjection
