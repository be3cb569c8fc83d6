import RecordProjection.Proofs.Markup.Rendering
import RecordProjection.Registry.Reading

/-! Registries and indentation. The white space that rendering adds stands where a registry has no
text or only blanks, so the records in a rendered tree are those of the tree. -/

namespace RecordProjection
open Markup Text

@[simp] theorem indented_tag (depth : Nat) (element : Element) :
    (element.indented depth).tag = element.tag := by
  cases element
  rfl

@[simp] theorem indented_attribute? (depth : Nat) (element : Element) (name : String) :
    (element.indented depth).attribute? name = element.attribute? name := by
  cases element
  rfl

theorem indented_children (depth : Nat) (element : Element) :
    (element.indented depth).children = element.children.map (Element.indented (depth + 1)) := by
  cases element
  exact indentedAll_eq _ _

theorem childrenTagged_indented (depth : Nat) (element : Element) (tag : String) :
    (element.indented depth).childrenTagged tag =
      (element.childrenTagged tag).map (Element.indented (depth + 1)) := by
  unfold Element.childrenTagged
  rw [indented_children, List.filter_map]
  simp [Function.comp_def]

theorem childTagged?_indented (depth : Nat) (element : Element) (tag : String) :
    (element.indented depth).childTagged? tag =
      (element.childTagged? tag).map (Element.indented (depth + 1)) := by
  unfold Element.childTagged?
  rw [indented_children, List.find?_map]
  simp only [Function.comp_def, indented_tag]

theorem trim_of_blank {text : String} (blank : text.toList.all isBlank = true) :
    trim text = "" := by
  rw [List.all_eq_true] at blank
  rw [trim, trimLeft, List.dropWhile_eq_nil_iff.2 blank]
  rfl

theorem trim_indentedText (depth : Nat) (text : String) :
    trim (indentedText depth text) = trim text := by
  unfold indentedText
  split
  · rename_i blank
    rw [trim_of_blank blank, trim_of_blank]
    rw [String.toList_ofList, List.all_eq_true]
    intro c member
    rcases mem_newLine member with rfl | rfl <;> decide
  · rfl

theorem trim_indented (depth : Nat) (element : Element) :
    trim (element.indented depth).text = trim element.text := by
  obtain ⟨tag, attributes, text, children⟩ := element
  cases children with
  | nil => rfl
  | cons => exact trim_indentedText _ _

theorem annotationsOf_indented (depth : Nat) (element : Element) :
    annotationsOf (element.indented depth) = annotationsOf element := by
  unfold annotationsOf
  rw [childrenTagged_indented, List.map_map]
  exact List.map_congr_left fun child _ => trim_indented _ child

theorem genericOf_indented (depth : Nat) (element : Element) :
    Generic.ofElement (element.indented depth) = Generic.ofElement element := by
  simp [Generic.ofElement]

theorem fieldOf_indented (record : String) (depth : Nat) (element : Element) :
    Field.ofElement record (element.indented depth) = Field.ofElement record element := by
  simp [Field.ofElement, annotationsOf_indented]

theorem indexOf_indented (record key : String) (depth : Nat) (element : Element) :
    indexOf record key (element.indented depth) = indexOf record key element := by
  simp [indexOf]

theorem keptOf_indented (record : String) (depth : Nat) (element : Element) :
    keptOf record (element.indented depth) = keptOf record element := by
  simp [keptOf, indexOf_indented]

theorem argumentOf_indented (record : String) (depth : Nat) (element : Element) :
    ConversionArgument.ofElement record (element.indented depth) =
      ConversionArgument.ofElement record element := by
  simp [ConversionArgument.ofElement, indexOf_indented]

theorem mapM_indented {α : Type} {read : Element → Except RegistryFault α} {depth : Nat}
    (blind : ∀ element, read (element.indented depth) = read element) (elements : List Element) :
    (elements.map (Element.indented depth)).mapM read = elements.mapM read := by
  rw [List.mapM_map]
  congr 1
  funext element
  exact blind element

theorem planOf_indented (record : String) (depth : Nat) (element : Element) :
    ConversionPlan.ofElement record (element.indented depth) =
      ConversionPlan.ofElement record element := by
  simp only [ConversionPlan.ofElement, indented_attribute?, childrenTagged_indented,
    mapM_indented (keptOf_indented record _), mapM_indented (argumentOf_indented record _)]

theorem recordOf_indented (depth : Nat) (element : Element) :
    Record.ofElement (element.indented depth) = Record.ofElement element := by
  have generics : (element.childrenTagged "generic").map
      (Generic.ofElement ∘ Element.indented (depth + 1)) =
        (element.childrenTagged "generic").map Generic.ofElement :=
    List.map_congr_left fun child _ => genericOf_indented _ child
  have conversion (name : String) : ((element.childTagged? "conversion").map
      (Element.indented (depth + 1))).mapM (ConversionPlan.ofElement name) =
        (element.childTagged? "conversion").mapM (ConversionPlan.ofElement name) := by
    cases element.childTagged? "conversion" with
    | none => rfl
    | some child => exact congrArg (Functor.map some) (planOf_indented name _ child)
  simp only [Record.ofElement, indented_attribute?, childrenTagged_indented, childTagged?_indented,
    annotationsOf_indented, List.map_map, generics, conversion,
    mapM_indented (fieldOf_indented _ _)]

theorem recordsOf_indented (depth : Nat) (root : Element) :
    recordsOf (root.indented depth) = recordsOf root := by
  simp only [recordsOf, indented_tag, childrenTagged_indented, mapM_indented (recordOf_indented _)]

end RecordProjection
