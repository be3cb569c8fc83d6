import RecordProjection.Projection.Invariant
import RecordProjection.Proofs.Markup.Legality
import RecordProjection.Proofs.Markup.Rendering
import RecordProjection.Proofs.Text.Numeral
import RecordProjection.Registry.Writing

/-! Definitions that can be written: their texts hold legal characters only, and so do the elements
that are made of them. -/

namespace RecordProjection
open Markup Text

def Generic.texts (generic : Generic) : List String := [generic.name, generic.bounds.getD ""]

def Field.texts (field : Field) : List String :=
  [field.name.getD "", field.visibility, field.type]

def ConversionArgument.texts (argument : ConversionArgument) : List String :=
  [argument.name, argument.type]

def ConversionPlan.texts (plan : ConversionPlan) : List String :=
  plan.source :: plan.method :: plan.arguments.flatMap ConversionArgument.texts

def Definition.texts (definition : Definition) : List String :=
  definition.name :: definition.kind :: (definition.generics.flatMap Generic.texts ++
    definition.fields.flatMap Field.texts ++ definition.conversion.elim [] ConversionPlan.texts)

structure Definition.Writable (definition : Definition) : Prop where
  texts : ∀ text ∈ definition.texts, Legal text.toList
  annotations : ∀ note ∈ definition.allAnnotations, Legal note.toList

instance (definition : Definition) : Decidable definition.Writable :=
  decidable_of_iff ((∀ text ∈ definition.texts, Legal text.toList) ∧
      ∀ note ∈ definition.allAnnotations, Legal note.toList)
    ⟨fun ⟨texts, annotations⟩ => ⟨texts, annotations⟩,
      fun ⟨texts, annotations⟩ => ⟨texts, annotations⟩⟩

def areAttributeNames (names : List String) : Bool :=
  (names.all fun name => isPlainName name.toList && decide (name.toList ≠ qualifierXmlns)) &&
    decide names.Nodup

theorem writableAttributes_of_names (names : List String) (good : areAttributeNames names = true)
    {attributes : List (String × String)} (within : (attributes.map Prod.fst).Sublist names)
    (legal : ∀ pair ∈ attributes, Legal pair.2.toList) : WritableAttributes attributes := by
  simp only [areAttributeNames, Bool.and_eq_true, List.all_eq_true, decide_eq_true_eq] at good
  obtain ⟨each, distinct⟩ := good
  have listed : ∀ pair ∈ attributes, pair.1 ∈ names := fun pair member =>
    within.subset (List.mem_map_of_mem member)
  exact ⟨fun pair member => (each pair.1 (listed pair member)).1,
    fun pair member => (each pair.1 (listed pair member)).2, distinct.sublist within, legal⟩

theorem unlessEmpty_names (name value : String) :
    ((unlessEmpty name value).map Prod.fst).Sublist [name] := by
  unfold unlessEmpty
  split
  · exact List.nil_sublist _
  · exact List.Sublist.refl _

theorem legal_unlessEmpty {name value : String} (legal : Legal value.toList) :
    ∀ pair ∈ unlessEmpty name value, Legal pair.2.toList := by
  unfold unlessEmpty
  split
  · exact List.forall_mem_nil _
  · exact List.forall_mem_singleton.2 legal

theorem legal_empty : Legal "".toList := List.forall_mem_nil _

theorem writable_element {tag : String} {attributes : List (String × String)}
    {children : List Element} (named : isPlainName tag.toList = true)
    (writable : WritableAttributes attributes) (inner : ∀ child ∈ children, child.Writable) :
    (Element.mk tag attributes "" children).Writable :=
  .intro named writable legal_empty inner

theorem writable_annotationElement {note : String} (legal : Legal note.toList) :
    (annotationElement note).Writable := by
  refine .intro (by decide) ?_ legal (List.forall_mem_nil _)
  exact writableAttributes_of_names [] rfl (List.Sublist.refl _) (List.forall_mem_nil _)

theorem writable_generic {generic : Generic} (legal : ∀ text ∈ generic.texts, Legal text.toList) :
    generic.element.Writable := by
  simp only [Generic.texts, List.forall_mem_cons] at legal
  refine writable_element (by decide) ?_ (List.forall_mem_nil _)
  refine writableAttributes_of_names ["name", "bounds"] (by decide) ?_ ?_
  · exact (unlessEmpty_names "bounds" _).cons_cons "name"
  · exact List.forall_mem_cons.2 ⟨legal.1, legal_unlessEmpty legal.2.1⟩

theorem writable_annotations {notes : List String} (legal : ∀ note ∈ notes, Legal note.toList) :
    ∀ child ∈ notes.map annotationElement, child.Writable :=
  List.forall_mem_map.2 fun note member => writable_annotationElement (legal note member)

theorem writable_field {field : Field} (legal : ∀ text ∈ field.texts, Legal text.toList)
    (notes : ∀ note ∈ field.annotations, Legal note.toList) : field.element.Writable := by
  simp only [Field.texts, List.forall_mem_cons] at legal
  refine writable_element (by decide) ?_ (writable_annotations notes)
  refine writableAttributes_of_names ["name", "visibility", "type"] (by decide) ?_ ?_
  · have name : ((field.name.map fun name => ("name", name)).toList.map Prod.fst).Sublist
        ["name"] := by
      cases field.name with
      | none => exact List.nil_sublist _
      | some => exact List.Sublist.refl _
    change (List.map Prod.fst _).Sublist (["name"] ++ ["visibility"] ++ ["type"])
    rw [List.map_append, List.map_append]
    exact (name.append (unlessEmpty_names "visibility" _)).append (List.Sublist.refl _)
  · refine List.forall_mem_append.2 ⟨List.forall_mem_append.2 ⟨?_, legal_unlessEmpty legal.2.1⟩, ?_⟩
    · cases named : field.name with
      | none => exact List.forall_mem_nil _
      | some name =>
        rw [named] at legal
        exact List.forall_mem_singleton.2 legal.1
    · exact List.forall_mem_singleton.2 legal.2.2.1

theorem legal_toString (index : Int) : Legal (toString index).toList := by
  have digits : ∀ number : Nat, Legal (toString number).toList := fun number c member => by
    have range := range_of_isAlphanum (c := c) (by
      simp [Char.isAlphanum, isDigit_of_mem_toString member])
    exact isLegal_of_range (by omega) (by omega)
  rw [Int.toString_eq_repr, Int.repr_eq_if]
  split
  · exact digits _
  · rw [String.toList_append]
    exact legal_append.2 ⟨legal_singleton (by decide), digits _⟩

theorem writable_keptElement (pair : Int × Int) : (keptElement pair).Writable := by
  refine writable_element (by decide) ?_ (List.forall_mem_nil _)
  refine writableAttributes_of_names ["source-index", "index"] (by decide) (List.Sublist.refl _) ?_
  simp only [List.forall_mem_cons]
  exact ⟨legal_toString _, legal_toString _, List.forall_mem_nil _⟩

theorem writable_argument {argument : ConversionArgument}
    (legal : ∀ text ∈ argument.texts, Legal text.toList) : argument.element.Writable := by
  refine writable_element (by decide) ?_ (List.forall_mem_nil _)
  refine writableAttributes_of_names ["source-index", "name", "type"] (by decide)
    (List.Sublist.refl _) ?_
  simp only [ConversionArgument.texts, List.forall_mem_cons] at legal ⊢
  exact ⟨legal_toString _, legal.1, legal.2.1, List.forall_mem_nil _⟩

theorem writable_plan {plan : ConversionPlan} (legal : ∀ text ∈ plan.texts, Legal text.toList) :
    plan.element.Writable := by
  simp only [ConversionPlan.texts, List.forall_mem_cons, List.forall_mem_flatMap] at legal
  obtain ⟨source, method, arguments⟩ := legal
  refine writable_element (by decide) ?_ ?_
  · refine writableAttributes_of_names ["from", "method"] (by decide) (List.Sublist.refl _) ?_
    simp only [List.forall_mem_cons]
    exact ⟨source, method, List.forall_mem_nil _⟩
  · refine List.forall_mem_append.2 ⟨List.forall_mem_map.2 fun pair _ => writable_keptElement pair,
      List.forall_mem_map.2 fun argument member => writable_argument (arguments argument member)⟩

theorem Definition.Writable.element {definition : Definition} (writable : definition.Writable) :
    definition.element.Writable := by
  obtain ⟨texts, annotations⟩ := writable
  simp only [Definition.texts, List.forall_mem_cons, List.forall_mem_append,
    List.forall_mem_flatMap] at texts
  simp only [Definition.allAnnotations, List.forall_mem_append, List.forall_mem_flatMap]
    at annotations
  obtain ⟨name, kind, ⟨generics, fields⟩, conversion⟩ := texts
  refine writable_element (by decide) ?_ ?_
  · refine writableAttributes_of_names ["name", "kind"] (by decide) (List.Sublist.refl _) ?_
    simp only [List.forall_mem_cons]
    exact ⟨name, kind, List.forall_mem_nil _⟩
  · simp only [List.forall_mem_append, List.forall_mem_map]
    refine ⟨⟨⟨fun generic member => writable_generic (generics generic member), ?_⟩, ?_⟩, ?_⟩
    · exact fun note member => writable_annotationElement (annotations.1 note member)
    · exact fun field member => writable_field (fields field member) (annotations.2 field member)
    · cases plan : definition.conversion with
      | none => exact List.forall_mem_nil _
      | some =>
        rw [plan] at conversion
        exact List.forall_mem_singleton.2 (writable_plan conversion)

theorem writable_registryElement {definitions : List Definition}
    (writable : ∀ definition ∈ definitions, definition.Writable) :
    (registryElement definitions).Writable := by
  refine writable_element (by decide) ?_ ?_
  · exact writableAttributes_of_names [] rfl (List.Sublist.refl _) (List.forall_mem_nil _)
  · exact List.forall_mem_map.2 fun definition member => (writable definition member).element

end RecordProjection
