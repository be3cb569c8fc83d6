import RecordProjection.Proofs.Registry.LineEnd

/-! Definitions that a registry can hold. The element of such a definition is read as a record with
everything the definition says, except that empty bounds are absent ones; where its texts can be
written besides, so is the document. -/

namespace RecordProjection
open Markup Text

def Generic.settled (generic : Generic) : Generic :=
  { generic with bounds := generic.bounds.filter (· ≠ "") }

theorem settled_eq_self_iff (generic : Generic) :
    generic.settled = generic ↔ generic.bounds ≠ some "" := by
  obtain ⟨name, bounds⟩ := generic
  cases bounds with
  | none => simp [Generic.settled]
  | some text => by_cases empty : text = "" <;> simp [Generic.settled, Option.filter, empty]

theorem settled_map_eq_self_iff (generics : List Generic) :
    generics.map Generic.settled = generics ↔ ∀ generic ∈ generics, generic.bounds ≠ some "" := by
  simp only [map_eq_self_iff, settled_eq_self_iff]

def Definition.record (definition : Definition) : Record where
  name := definition.name
  kind := definition.kind
  generics := definition.generics.map Generic.settled
  annotations := definition.annotations
  fields := definition.fields
  conversion := definition.conversion

def isConvertible (index : Int) : Bool := decide (index.natAbs < 10 ^ maxDigits)

def IsIndex (index : Int) : Prop := 0 ≤ index ∧ isConvertible index = true

instance (index : Int) : Decidable (IsIndex index) := inferInstanceAs (Decidable (_ ∧ _))

structure ConversionPlan.Storable (plan : ConversionPlan) : Prop where
  source : plan.source ≠ ""
  method : plan.method ≠ ""
  kept : ∀ pair ∈ plan.kept, IsIndex pair.1 ∧ IsIndex pair.2
  arguments : ∀ argument ∈ plan.arguments, IsIndex argument.sourceIndex

instance (plan : ConversionPlan) : Decidable plan.Storable :=
  decidable_of_iff (plan.source ≠ "" ∧ plan.method ≠ "" ∧
      (∀ pair ∈ plan.kept, IsIndex pair.1 ∧ IsIndex pair.2) ∧
      ∀ argument ∈ plan.arguments, IsIndex argument.sourceIndex)
    ⟨fun ⟨source, method, kept, arguments⟩ => ⟨source, method, kept, arguments⟩,
      fun ⟨source, method, kept, arguments⟩ => ⟨source, method, kept, arguments⟩⟩

structure Definition.Storable (definition : Definition) : Prop where
  named : isName definition.name = true
  typed : ∀ field ∈ definition.fields, field.type ≠ ""
  trimmed : ∀ note ∈ definition.allAnnotations, IsTrimmed note
  conversion : ∀ plan ∈ definition.conversion, plan.Storable

instance (definition : Definition) : Decidable definition.Storable :=
  decidable_of_iff (isName definition.name = true ∧ (∀ field ∈ definition.fields, field.type ≠ "") ∧
      (∀ note ∈ definition.allAnnotations, IsTrimmed note) ∧
      ∀ plan ∈ definition.conversion, plan.Storable)
    ⟨fun ⟨named, typed, trimmed, conversion⟩ => ⟨named, typed, trimmed, conversion⟩,
      fun ⟨named, typed, trimmed, conversion⟩ => ⟨named, typed, trimmed, conversion⟩⟩

section Children
variable {α : Type} (make : α → Element) (values : List α)

theorem filter_map_tag {tag : String} (tagged : ∀ value, (make value).tag = tag) (wanted : String) :
    (values.map make).filter (fun child => child.tag == wanted) =
      if tag = wanted then values.map make else [] := by
  by_cases same : tag = wanted
  · rw [if_pos same, List.filter_eq_self]
    exact List.forall_mem_map.2 fun value _ => by simp [tagged, same]
  · rw [if_neg same, List.filter_eq_nil_iff]
    exact List.forall_mem_map.2 fun value _ => by simp [tagged, same]

end Children

theorem genericOf_element (generic : Generic) :
    Generic.ofElement generic.element = generic.settled := by
  obtain ⟨name, bounds⟩ := generic
  unfold Generic.ofElement Generic.element Generic.settled Element.attribute? unlessEmpty
  cases bounds with
  | none => rfl
  | some text =>
    by_cases empty : text = ""
    · subst empty
      rfl
    · simp [empty, List.lookup_cons, Option.filter]

theorem annotationsOf_map {notes : List String} (trimmed : ∀ note ∈ notes, IsTrimmed note)
    {element : Element}
    (children : element.childrenTagged "annotation" = notes.map annotationElement) :
    annotationsOf element = notes := by
  unfold annotationsOf
  rw [children, List.map_map]
  exact map_eq_self_iff.2 trimmed

theorem fieldOf_element (record : String) {field : Field} (typed : field.type ≠ "")
    (trimmed : ∀ note ∈ field.annotations, IsTrimmed note) :
    Field.ofElement record field.element = .ok field := by
  have notes : annotationsOf field.element = field.annotations := by
    refine annotationsOf_map trimmed ?_
    exact (filter_map_tag annotationElement field.annotations (fun _ => rfl) _).trans (if_pos rfl)
  obtain ⟨name, visibility, type, annotations⟩ := field
  have attributes : (Field.element ⟨name, visibility, type, annotations⟩).attribute? "name" = name ∧
      ((Field.element ⟨name, visibility, type, annotations⟩).attribute? "visibility").getD "" =
        visibility ∧
      (Field.element ⟨name, visibility, type, annotations⟩).attribute? "type" = some type := by
    unfold Field.element Element.attribute? unlessEmpty
    by_cases empty : visibility = "" <;> cases name <;> simp [empty, List.lookup_cons]
  obtain ⟨named, visible, given⟩ := attributes
  unfold Field.ofElement
  rw [named, visible, given, notes]
  simp [typed]

theorem indexOf_element {index : Int} (isIndex : IsIndex index) (record key : String)
    (element : Element) (written : element.attribute? key = some (toString index)) :
    indexOf record key element = .ok index := by
  obtain ⟨natural, convertible⟩ := isIndex
  obtain ⟨number, rfl⟩ := Int.eq_ofNat_of_zero_le natural
  have small : number < 10 ^ maxDigits := of_decide_eq_true convertible
  have spelled : toString (number : Int) = toString number := rfl
  have numeric : looksNumeric (toString number) = true := by
    have digits : ∀ c ∈ (toString number).toList, isDigitLike c = true := fun c member => by
      rw [isDigitLike, isDecimal, decimalValue?_of_isDigit (isDigit_of_mem_toString member)]
      rfl
    simp only [looksNumeric, Bool.and_eq_true, List.all_eq_true]
    exact ⟨by simp, digits⟩
  unfold indexOf
  rw [written, spelled]
  simp only [Option.getD_some, numeric, if_true, readNumeral_toString small]

theorem keptOf_element {pair : Int × Int} (first : IsIndex pair.1) (second : IsIndex pair.2)
    (record : String) : keptOf record (keptElement pair) = .ok pair := by
  unfold keptOf
  rw [indexOf_element first record "source-index" (keptElement pair) rfl,
    indexOf_element second record "index" (keptElement pair) rfl]
  rfl

theorem argumentOf_element {argument : ConversionArgument} (index : IsIndex argument.sourceIndex)
    (record : String) : ConversionArgument.ofElement record argument.element = .ok argument := by
  unfold ConversionArgument.ofElement
  rw [indexOf_element index record "source-index" argument.element rfl]
  rfl

theorem planOf_element {plan : ConversionPlan} (storable : plan.Storable) (record : String) :
    ConversionPlan.ofElement record plan.element = .ok plan := by
  have parts (tag : String) : plan.element.childrenTagged tag =
      (if "keep" = tag then plan.kept.map keptElement else []) ++
        if "argument" = tag then plan.arguments.map ConversionArgument.element else [] := by
    unfold Element.childrenTagged ConversionPlan.element
    rw [List.filter_append, filter_map_tag keptElement _ (fun _ => rfl),
      filter_map_tag ConversionArgument.element _ (fun _ => rfl)]
  have source : plan.element.attribute? "from" = some plan.source := rfl
  have method : plan.element.attribute? "method" = some plan.method := rfl
  have kept : (plan.element.childrenTagged "keep").mapM (keptOf record) = .ok plan.kept := by
    rw [parts, if_pos rfl, if_neg (by decide), List.append_nil, mapM_map_of_ok keptElement id
      fun pair member => keptOf_element (storable.kept pair member).1
        (storable.kept pair member).2 record, List.map_id]
  have arguments : (plan.element.childrenTagged "argument").mapM
      (ConversionArgument.ofElement record) = .ok plan.arguments := by
    rw [parts, if_neg (by decide), if_pos rfl, List.nil_append,
      mapM_map_of_ok ConversionArgument.element id fun argument member =>
        argumentOf_element (storable.arguments argument member) record, List.map_id]
  have named : (plan.source.isEmpty || plan.method.isEmpty) = false := by
    simp [storable.source, storable.method]
  unfold ConversionPlan.ofElement
  rw [source, method, kept, arguments]
  simp only [Option.getD_some, named]
  rfl

/-- A definition that a registry can hold is read back from its element. -/
theorem recordOf_element {definition : Definition} (storable : definition.Storable) :
    Record.ofElement definition.element = .ok definition.record := by
  have trimmed := storable.trimmed
  simp only [Definition.allAnnotations, List.forall_mem_append, List.forall_mem_flatMap] at trimmed
  have parts (tag : String) : definition.element.childrenTagged tag =
      (((if "generic" = tag then definition.generics.map Generic.element else []) ++
        (if "annotation" = tag then definition.annotations.map annotationElement else [])) ++
        (if "field" = tag then definition.fields.map Field.element else [])) ++
        if "conversion" = tag then definition.conversion.toList.map ConversionPlan.element
          else [] := by
    unfold Element.childrenTagged Definition.element
    rw [List.filter_append, List.filter_append, List.filter_append,
      filter_map_tag Generic.element _ (fun _ => rfl),
      filter_map_tag annotationElement _ (fun _ => rfl),
      filter_map_tag Field.element _ (fun _ => rfl), Option.toList_map,
      filter_map_tag ConversionPlan.element _ (fun _ => rfl)]
  have name : definition.element.attribute? "name" = some definition.name := rfl
  have kind : definition.element.attribute? "kind" = some definition.kind := rfl
  have generics : (definition.element.childrenTagged "generic").map Generic.ofElement =
      definition.generics.map Generic.settled := by
    simp [parts, genericOf_element]
  have annotations : annotationsOf definition.element = definition.annotations := by
    refine annotationsOf_map trimmed.1 ?_
    simp [parts]
  have fields : (definition.element.childrenTagged "field").mapM (Field.ofElement definition.name) =
      .ok definition.fields := by
    have own := mapM_map_of_ok Field.element id fun field member =>
      fieldOf_element definition.name (storable.typed field member) (trimmed.2 field member)
    simp [parts, own]
  have conversion : (definition.element.childTagged? "conversion").mapM
      (ConversionPlan.ofElement definition.name) = .ok definition.conversion := by
    have first : definition.element.childTagged? "conversion" =
        (definition.element.childrenTagged "conversion").head? := (List.head?_filter ..).symm
    rw [first, parts]
    cases given : definition.conversion with
    | none => rfl
    | some plan =>
      exact congrArg (Functor.map some) (planOf_element (storable.conversion plan given) _)
  unfold Record.ofElement
  rw [name, kind]
  simp only [Option.getD_some, storable.named, if_true, fields, conversion, generics, annotations]
  rfl

theorem recordsOf_registryElement {definitions : List Definition}
    (storable : ∀ definition ∈ definitions, definition.Storable) :
    recordsOf (registryElement definitions) = .ok (definitions.map Definition.record) := by
  have records : (registryElement definitions).childrenTagged "record" =
      definitions.map Definition.element :=
    (filter_map_tag Definition.element definitions (fun _ => rfl) _).trans (if_pos rfl)
  have tag : (registryElement definitions).tag = "records" := rfl
  unfold recordsOf
  rw [if_pos tag, records]
  exact mapM_map_of_ok Definition.element Definition.record fun definition member =>
    recordOf_element (storable definition member)

theorem Definition.Storable.lineFed {definition : Definition} (storable : definition.Storable) :
    definition.lineFed.Storable := by
  have trimmed := storable.trimmed
  simp only [Definition.allAnnotations, List.forall_mem_append, List.forall_mem_flatMap] at trimmed
  refine ⟨storable.named, List.forall_mem_map.2 storable.typed, ?_, storable.conversion⟩
  simp only [Definition.allAnnotations, Definition.lineFed, List.forall_mem_append,
    List.forall_mem_flatMap, List.forall_mem_map]
  exact ⟨fun note member => isTrimmed_lineFeeds (trimmed.1 note member),
    fun field member => List.forall_mem_map.2 fun note carries =>
      isTrimmed_lineFeeds (trimmed.2 field member note carries)⟩

theorem readRecords_of_storable {definitions : List Definition}
    (writable : ∀ definition ∈ definitions, definition.Writable)
    (storable : ∀ definition ∈ definitions, definition.Storable) :
    readRecords (registryDocument definitions).toUTF8 =
      .ok (definitions.map fun definition => definition.lineFed.record) := by
  have fed : ∀ definition ∈ definitions.map Definition.lineFed, definition.Storable :=
    List.forall_mem_map.2 fun definition member => (storable definition member).lineFed
  rw [readRecords_registryDocument writable, recordsOf_registryElement fed, List.map_map]
  rfl

theorem readRecords_of_plain {definitions : List Definition}
    (writable : ∀ definition ∈ definitions, definition.Writable)
    (storable : ∀ definition ∈ definitions, definition.Storable)
    (plain : ∀ definition ∈ definitions, ∀ note ∈ definition.allAnnotations, '\r' ∉ note.toList) :
    readRecords (registryDocument definitions).toUTF8 =
      .ok (definitions.map Definition.record) := by
  have records : (definitions.map fun definition => definition.lineFed.record) =
      (definitions.map Definition.lineFed).map Definition.record := by
    rw [List.map_map]
    rfl
  rw [readRecords_of_storable writable storable, records, lineFed_map_eq_self plain]

end RecordProjection
