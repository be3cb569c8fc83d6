import RecordProjection.Proofs.Markup.LegalTree
import RecordProjection.Proofs.Registry.Acceptance

/-! What reading promises. The records of a registry that was read hold legal characters only, and
written as they stand they can be held by a registry again. -/

namespace RecordProjection
open Markup Text

theorem legal_value {element : Element} (legal : element.Legal) {name value : String}
    (given : element.attribute? name = some value) : Legal value.toList := by
  obtain ⟨values, -, -⟩ := legal
  obtain ⟨before, after, same, -⟩ := List.lookup_eq_some_iff.1 given
  refine values (name, value) ?_
  dsimp only at same
  rw [same]
  exact List.mem_append_right _ List.mem_cons_self

theorem legal_valueD {element : Element} (legal : element.Legal) (name : String)
    {other : String} (usual : Legal other.toList) :
    Legal ((element.attribute? name).getD other).toList := by
  cases given : element.attribute? name with
  | none => exact usual
  | some value => exact legal_value legal given

theorem legal_children {element : Element} (legal : element.Legal) (tag : String) :
    ∀ child ∈ element.childrenTagged tag, child.Legal := by
  obtain ⟨-, -, inner⟩ := legal
  exact fun child member => inner child (List.mem_filter.1 member).1

theorem legal_annotationsOf {element : Element} (legal : element.Legal) :
    ∀ note ∈ annotationsOf element, Legal note.toList := by
  refine List.forall_mem_map.2 fun child member => ?_
  obtain ⟨-, content, -⟩ := legal_children legal "annotation" child member
  exact legal_subset content (trim_contiguous _).subset

theorem legal_genericOf {element : Element} (legal : element.Legal) :
    ∀ text ∈ (Generic.ofElement element).texts, Legal text.toList := by
  simp only [Generic.texts, Generic.ofElement, List.forall_mem_cons]
  exact ⟨legal_valueD legal _ legal_empty, legal_valueD legal _ legal_empty, List.forall_mem_nil _⟩

theorem legal_fieldOf {record : String} {element : Element} {field : Field}
    (legal : element.Legal) (read : Field.ofElement record element = .ok field) :
    (∀ text ∈ field.texts, Legal text.toList) ∧ ∀ note ∈ field.annotations, Legal note.toList := by
  obtain ⟨-, rfl⟩ := fieldOf_eq_ok read
  refine ⟨?_, legal_annotationsOf legal⟩
  simp only [Field.texts, List.forall_mem_cons]
  exact ⟨legal_valueD legal _ legal_empty, legal_valueD legal _ legal_empty,
    legal_valueD legal _ legal_empty, List.forall_mem_nil _⟩

theorem legal_planOf {record : String} {element : Element} {plan : ConversionPlan}
    (legal : element.Legal) (read : ConversionPlan.ofElement record element = .ok plan) :
    ∀ text ∈ plan.texts, Legal text.toList := by
  obtain ⟨⟨-, source⟩, ⟨-, method⟩, -, read_arguments⟩ := planOf_eq_ok read
  simp only [ConversionPlan.texts, List.forall_mem_cons, List.forall_mem_flatMap]
  refine ⟨source ▸ legal_valueD legal _ legal_empty, method ▸ legal_valueD legal _ legal_empty,
    fun argument member => ?_⟩
  obtain ⟨child, listed, found⟩ := mem_of_mapM_ok read_arguments argument member
  have own := legal_children legal "argument" child listed
  obtain ⟨-, name, type⟩ := argumentOf_eq_ok found
  simp only [ConversionArgument.texts, List.forall_mem_cons]
  exact ⟨name ▸ legal_valueD own _ legal_empty, type ▸ legal_valueD own _ legal_empty,
    List.forall_mem_nil _⟩

structure Record.Promised (record : Record) : Prop where
  storable : record.unchanged.Storable
  writable : record.unchanged.Writable

theorem writable_recordOf {element : Element} {record : Record} (legal : element.Legal)
    (read : Record.ofElement element = .ok record) : record.unchanged.Writable := by
  obtain ⟨-, read_fields, read_conversion, parts⟩ := recordOf_eq_ok read
  have field (field : Field) (member : field ∈ record.fields) :
      (∀ text ∈ field.texts, Legal text.toList) ∧
        ∀ note ∈ field.annotations, Legal note.toList := by
    obtain ⟨child, listed, found⟩ := mem_of_mapM_ok read_fields field member
    exact legal_fieldOf (legal_children legal "field" child listed) found
  have conversion : ∀ plan, record.conversion = some plan →
      ∀ text ∈ plan.texts, Legal text.toList := by
    intro plan given
    rw [given] at read_conversion
    obtain ⟨child, found, read_plan⟩ := some_of_mapM_ok read_conversion
    obtain ⟨-, -, inner⟩ := legal
    exact legal_planOf (inner child (List.mem_of_find?_eq_some found)) read_plan
  have struct : Legal projectableKind.toList := List.all_eq_true.1 (by decide)
  constructor
  · simp only [Definition.texts, Record.unchanged, List.forall_mem_cons, List.forall_mem_append,
      List.forall_mem_flatMap]
    refine ⟨?_, ?_, ⟨?_, fun given member => (field given member).1⟩, ?_⟩
    · rw [congrArg Record.name parts]
      exact legal_valueD legal _ legal_empty
    · rw [congrArg Record.kind parts]
      exact legal_valueD legal _ struct
    · rw [congrArg Record.generics parts]
      exact List.forall_mem_map.2 fun child member =>
        legal_genericOf (legal_children legal "generic" child member)
    · cases given : record.conversion with
      | none => exact List.forall_mem_nil _
      | some plan => exact conversion plan given
  · simp only [Definition.allAnnotations, Record.unchanged, List.forall_mem_append,
      List.forall_mem_flatMap]
    refine ⟨?_, fun given member => (field given member).2⟩
    rw [congrArg Record.annotations parts]
    exact legal_annotationsOf legal

theorem promised_of_readRecords {octets : ByteArray} {records : List Record}
    (read : readRecords octets = .ok records) : ∀ record ∈ records, record.Promised := by
  unfold readRecords at read
  split at read
  · cases read
  · rename_i root found
    have legal := legal_readDocument found
    split at read
    · cases read
    · rename_i loaded
      cases read
      intro record member
      obtain ⟨element, listed, own⟩ := mem_recordsOf loaded member
      have sound := legal_children legal "record" element listed
      exact ⟨storable_recordOf own, writable_recordOf sound own⟩

end RecordProjection
