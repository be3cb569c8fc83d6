import RecordProjection.Proofs.Registry.Storage

/-! What reading accepts. A record is read from an element only if it has a name and its fields have
types, and then it consists of what the attributes and the children say. A registry can hold every
record that was read. -/

namespace RecordProjection
open Markup Text

theorem trimmed_annotationsOf (element : Element) :
    ∀ note ∈ annotationsOf element, IsTrimmed note :=
  List.forall_mem_map.2 fun child _ => isTrimmed_trim child.text

theorem fieldOf_eq_ok {record : String} {element : Element} {field : Field}
    (read : Field.ofElement record element = .ok field) :
    field.type ≠ "" ∧ field = {
      name := element.attribute? "name"
      visibility := (element.attribute? "visibility").getD ""
      type := (element.attribute? "type").getD ""
      annotations := annotationsOf element } := by
  unfold Field.ofElement at read
  dsimp only at read
  split at read
  · cases read
  · rename_i typed
    cases read
    exact ⟨by simpa using typed, rfl⟩

theorem isIndex_indexOf {record key : String} {element : Element} {index : Int}
    (read : indexOf record key element = .ok index) : IsIndex index := by
  unfold indexOf at read
  dsimp only at read
  split at read
  · split at read
    · rename_i number found
      cases read
      exact ⟨Int.natCast_nonneg number, decide_eq_true (readNumeral_lt found)⟩
    · cases read
  · cases read

theorem argumentOf_eq_ok {record : String} {element : Element} {argument : ConversionArgument}
    (read : ConversionArgument.ofElement record element = .ok argument) :
    IsIndex argument.sourceIndex ∧ argument.name = (element.attribute? "name").getD "" ∧
      argument.type = (element.attribute? "type").getD "" := by
  obtain ⟨index, found, read⟩ := bind_eq_ok read
  cases read
  exact ⟨isIndex_indexOf found, rfl, rfl⟩

theorem planOf_eq_ok {record : String} {element : Element} {plan : ConversionPlan}
    (read : ConversionPlan.ofElement record element = .ok plan) :
    (plan.source ≠ "" ∧ plan.source = (element.attribute? "from").getD "") ∧
      (plan.method ≠ "" ∧ plan.method = (element.attribute? "method").getD "") ∧
      (element.childrenTagged "keep").mapM (keptOf record) = .ok plan.kept ∧
      (element.childrenTagged "argument").mapM (ConversionArgument.ofElement record) =
        .ok plan.arguments := by
  unfold ConversionPlan.ofElement at read
  dsimp only at read
  split at read
  · cases read
  · rename_i named
    obtain ⟨kept, read_kept, read⟩ := bind_eq_ok read
    obtain ⟨arguments, read_arguments, read⟩ := bind_eq_ok read
    cases read
    simp only [Bool.or_eq_true, String.isEmpty_iff, not_or] at named
    exact ⟨⟨named.1, rfl⟩, ⟨named.2, rfl⟩, read_kept, read_arguments⟩

theorem storable_planOf {record : String} {element : Element} {plan : ConversionPlan}
    (read : ConversionPlan.ofElement record element = .ok plan) : plan.Storable := by
  obtain ⟨⟨source, -⟩, ⟨method, -⟩, read_kept, read_arguments⟩ := planOf_eq_ok read
  refine ⟨source, method, fun pair member => ?_, fun argument member => ?_⟩
  · obtain ⟨child, -, found⟩ := mem_of_mapM_ok read_kept pair member
    obtain ⟨first, read_first, found⟩ := bind_eq_ok found
    obtain ⟨second, read_second, found⟩ := bind_eq_ok found
    cases found
    exact ⟨isIndex_indexOf read_first, isIndex_indexOf read_second⟩
  · obtain ⟨child, -, found⟩ := mem_of_mapM_ok read_arguments argument member
    exact (argumentOf_eq_ok found).1

theorem recordOf_eq_ok {element : Element} {record : Record}
    (read : Record.ofElement element = .ok record) :
    isName record.name = true ∧
      (element.childrenTagged "field").mapM (Field.ofElement record.name) = .ok record.fields ∧
      (element.childTagged? "conversion").mapM (ConversionPlan.ofElement record.name) =
        .ok record.conversion ∧
      record = {
        name := (element.attribute? "name").getD ""
        kind := (element.attribute? "kind").getD projectableKind
        generics := (element.childrenTagged "generic").map Generic.ofElement
        annotations := annotationsOf element
        fields := record.fields
        conversion := record.conversion } := by
  unfold Record.ofElement at read
  dsimp only at read
  split at read
  case isFalse => cases read
  rename_i named
  obtain ⟨fields, read_fields, read⟩ := bind_eq_ok read
  obtain ⟨conversion, read_conversion, read⟩ := bind_eq_ok read
  cases read
  exact ⟨named, read_fields, read_conversion, rfl⟩

theorem storable_recordOf {element : Element} {record : Record}
    (read : Record.ofElement element = .ok record) : record.unchanged.Storable := by
  obtain ⟨named, read_fields, read_conversion, parts⟩ := recordOf_eq_ok read
  have field : ∀ field ∈ record.fields, field.type ≠ "" ∧
      ∀ note ∈ field.annotations, IsTrimmed note := by
    intro field member
    obtain ⟨child, -, found⟩ := mem_of_mapM_ok read_fields field member
    obtain ⟨typed, rfl⟩ := fieldOf_eq_ok found
    exact ⟨typed, trimmed_annotationsOf child⟩
  have annotations : record.annotations = annotationsOf element := congrArg Record.annotations parts
  refine ⟨named, fun given member => (field given member).1, ?_, fun plan given => ?_⟩
  · simp only [Definition.allAnnotations, List.forall_mem_append, List.forall_mem_flatMap]
    refine ⟨fun note member => ?_, fun given member => (field given member).2⟩
    exact trimmed_annotationsOf element note (annotations ▸ member)
  · change record.conversion = some plan at given
    rw [given] at read_conversion
    obtain ⟨child, -, read_plan⟩ := some_of_mapM_ok read_conversion
    exact storable_planOf read_plan

theorem mem_recordsOf {root : Element} {records : List Record}
    (loaded : recordsOf root = .ok records) {record : Record} (member : record ∈ records) :
    ∃ element ∈ root.childrenTagged "record", Record.ofElement element = .ok record := by
  unfold recordsOf at loaded
  split at loaded
  · exact mem_of_mapM_ok loaded record member
  · cases loaded

end RecordProjection
