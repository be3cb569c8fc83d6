import RecordProjection.Proofs.Projection.Provenance
import RecordProjection.Proofs.Registry.Promise

/-! What a registry keeps of an expansion. The definitions of a record that was read can be written,
and they are read back if their indices are not too long to be converted. -/

namespace RecordProjection
open Directive Markup Text

theorem mem_escape {text : List Char} {c : Char} (member : c ∈ escape text) :
    c = backslash ∨ c ∈ text := by
  obtain ⟨d, inside, spelled⟩ := List.mem_flatMap.1 member
  split at spelled
  · rcases List.mem_cons.1 spelled with rfl | same
    · exact .inl rfl
    · exact .inr (List.mem_singleton.1 same ▸ inside)
  · exact .inr (List.mem_singleton.1 spelled ▸ inside)

def documentationMarks : List Char := "doc = \"\\".toList

theorem documentation_eq (words : String) :
    (documentation words).toList = "doc = \"".toList ++ escape words.toList ++ ['"'] := by
  rw [documentation, String.toList_ofList]
  rfl

theorem mem_documentation {words : String} {c : Char} (member : c ∈ (documentation words).toList) :
    c ∈ documentationMarks ∨ c ∈ words.toList := by
  have front : "doc = \"".toList ⊆ documentationMarks := by decide
  rw [documentation_eq, List.mem_append, List.mem_append, List.mem_singleton] at member
  rcases member with (before | escaped) | rfl
  · exact .inl (front before)
  · rcases mem_escape escaped with rfl | inside
    · exact .inl (by decide)
    · exact .inr inside
  · exact .inl (by decide)

theorem isTrimmed_documentation (words : String) : IsTrimmed (documentation words) := by
  have opens : StartsSolid "doc = \"".toList := by
    intro c first
    cases first
    decide
  have closes : EndsSolid ['"'] := by
    intro c last
    cases last
    decide
  apply isTrimmed_of_solid
  · rw [documentation_eq, List.append_assoc]
    exact startsSolid_append (by decide) opens _
  · rw [documentation_eq]
    exact endsSolid_append (by decide) closes _

theorem Documents.subset {note words : String} (documents : Documents note words) :
    words.toList ⊆ note.toList := by
  cases documents with
  | declared read member documented =>
    exact (declaredNames_excerpt read _ member).2 words documented
  | joined read member documented => exact membership_excerpt read _ member words documented

theorem Originates.trimmed {annotations : List String} {note : String}
    (origin : Originates annotations note) (trimmed : ∀ source ∈ annotations, IsTrimmed source) :
    IsTrimmed note := by
  cases origin with
  | kept member _ => exact trimmed note member
  | added _ read => exact (override_excerpt read).1
  | documented => exact isTrimmed_documentation _

/-- The characters of what comes from annotations are theirs, or mark it as documentation. -/
theorem Originates.characters {annotations : List String} {note : String}
    (origin : Originates annotations note) {c : Char} (member : c ∈ note.toList) :
    c ∈ documentationMarks ∨ ∃ source ∈ annotations, c ∈ source.toList := by
  cases origin with
  | kept stands _ => exact .inr ⟨note, stands, member⟩
  | added stands read => exact .inr ⟨_, stands, (override_excerpt read).2.subset member⟩
  | documented stands documents =>
    exact (mem_documentation member).imp_right fun inside => ⟨_, stands, documents.subset inside⟩

def Record.allAnnotations (record : Record) : List String :=
  record.annotations ++ record.fields.flatMap Field.annotations

theorem Definition.Derives.originates {definition : Definition} {record : Record}
    (derives : definition.Derives record) {note : String}
    (member : note ∈ definition.allAnnotations) :
    ∃ annotations ⊆ record.allAnnotations, Originates annotations note := by
  rcases List.mem_append.1 member with own | inside
  · exact ⟨record.annotations, List.subset_append_left _ _, derives.annotations note own⟩
  · obtain ⟨field, listed, carries⟩ := List.mem_flatMap.1 inside
    obtain ⟨original, stands, -, origins⟩ := derives.fields field listed
    exact ⟨original.annotations, fun source among =>
      List.mem_append_right _ (List.mem_flatMap.2 ⟨original, stands, among⟩), origins note carries⟩

theorem Definition.Derives.trimmed {definition : Definition} {record : Record}
    (derives : definition.Derives record)
    (trimmed : ∀ note ∈ record.allAnnotations, IsTrimmed note) :
    ∀ note ∈ definition.allAnnotations, IsTrimmed note := by
  intro note member
  obtain ⟨annotations, within, origin⟩ := derives.originates member
  exact origin.trimmed fun source among => trimmed source (within among)

theorem Definition.Derives.characters {definition : Definition} {record : Record}
    (derives : definition.Derives record) {note : String}
    (member : note ∈ definition.allAnnotations) {c : Char} (inside : c ∈ note.toList) :
    c ∈ documentationMarks ∨ ∃ source ∈ record.allAnnotations, c ∈ source.toList := by
  obtain ⟨annotations, within, origin⟩ := derives.originates member
  exact (origin.characters inside).imp_right fun ⟨source, among, own⟩ =>
    ⟨source, within among, own⟩

theorem Definition.Derives.plain {definition : Definition} {record : Record}
    (derives : definition.Derives record)
    (plain : ∀ note ∈ record.allAnnotations, '\r' ∉ note.toList) :
    ∀ note ∈ definition.allAnnotations, '\r' ∉ note.toList := by
  intro note member inside
  rcases derives.characters member inside with mark | ⟨source, among, own⟩
  · revert mark
    decide
  · exact plain source among own

def ConversionPlan.indices (plan : ConversionPlan) : List Int :=
  plan.kept.flatMap (fun pair => [pair.1, pair.2]) ++
    plan.arguments.map ConversionArgument.sourceIndex

def Definition.indices (definition : Definition) : List Int :=
  definition.conversion.elim [] ConversionPlan.indices

theorem storable_plan_iff (plan : ConversionPlan) :
    plan.Storable ↔
      plan.source ≠ "" ∧ plan.method ≠ "" ∧ ∀ index ∈ plan.indices, IsIndex index := by
  simp only [ConversionPlan.indices, List.forall_mem_append, List.forall_mem_flatMap,
    List.forall_mem_cons, List.forall_mem_map]
  constructor
  · rintro ⟨source, method, kept, arguments⟩
    exact ⟨source, method, fun pair member => ⟨(kept pair member).1, (kept pair member).2,
      List.forall_mem_nil _⟩, arguments⟩
  · rintro ⟨source, method, kept, arguments⟩
    exact ⟨source, method, fun pair member => ⟨(kept pair member).1, (kept pair member).2.1⟩,
      arguments⟩

theorem Definition.Storable.convertible {definition : Definition}
    (storable : definition.Storable) :
    ∀ index ∈ definition.indices, isConvertible index = true := by
  intro index inside
  unfold Definition.indices at inside
  cases given : definition.conversion with
  | none =>
    rw [given] at inside
    cases inside
  | some plan =>
    rw [given] at inside
    have indices := ((storable_plan_iff plan).1 (storable.conversion plan given)).2.2
    exact (indices index inside).2

theorem natural_of_mem_positions {length : Nat} {index : Int} (member : index ∈ positions length) :
    0 ≤ index := by
  obtain ⟨number, -, rfl⟩ := List.mem_map.1 member
  exact Int.natCast_nonneg number

theorem natural_conversionPlan (record : Record) {members : List ParsedField}
    (within : members ⊆ record.parse.fields) :
    ∀ index ∈ (conversionPlan record members).indices, 0 ≤ index := by
  have place : ∀ index ∈ members.map ParsedField.index, 0 ≤ index := by
    intro index member
    have position := List.map_subset ParsedField.index within member
    rw [indices_eq_positions] at position
    exact natural_of_mem_positions position
  simp only [ConversionPlan.indices, List.forall_mem_append, List.forall_mem_flatMap,
    List.forall_mem_cons]
  refine ⟨fun pair member => ?_, List.forall_mem_map.2 fun argument member => ?_⟩
  · exact ⟨place _ (List.of_mem_zip member).1,
      natural_of_mem_positions (List.of_mem_zip member).2, List.forall_mem_nil _⟩
  · obtain ⟨⟨field, index⟩, listed, rfl⟩ := List.mem_map.1 member
    obtain ⟨entry, -, same⟩ := List.mem_map.1 (List.mem_filter.1 listed).1
    cases same
    exact Int.natCast_nonneg _

theorem storable_conversionPlan {record : Record} {members : List ParsedField}
    (within : members ⊆ record.parse.fields) (named : record.name ≠ "")
    (convertible : ∀ index ∈ (conversionPlan record members).indices, isConvertible index = true) :
    (conversionPlan record members).Storable := by
  refine (storable_plan_iff _).2 ⟨named, ?_, fun index member => ?_⟩
  · change conversionMethod record.name ≠ ""
    rw [conversionMethod, ne_eq, ← String.toList_inj, String.toList_append]
    exact List.append_ne_nil_of_left_ne_nil (by decide) _
  · -- The indices are natural by construction; that they are short enough has to be known.
    exact ⟨natural_conversionPlan record within index member, convertible index member⟩

theorem legal_of_isName {name : String} (named : isName name = true) : Legal name.toList := by
  intro c member
  rcases isIdentChar_of_mem_isName named member with ident | rfl
  · have range := range_of_isIdentChar ident
    exact isLegal_of_range (by omega) (by omega)
  · decide

theorem legal_snakeCase {name : String} (named : isName name = true) :
    Legal (snakeCase name).toList := by
  intro c member
  obtain ⟨d, rfl, ident | rfl⟩ := mem_snakeCase named member
  · have range := range_toLower ident
    exact isLegal_of_range (by omega) (by omega)
  · decide

theorem legal_argumentName {field : Field} (legal : ∀ text ∈ field.texts, Legal text.toList)
    (index : Int) : Legal (argumentName field index).toList := by
  unfold argumentName
  cases given : field.name with
  | none =>
    have spelled : (s!"arg{index}").toList = "arg".toList ++ (toString index).toList := by
      rw [String.toList_append]
      rfl
    rw [Option.getD_none, spelled]
    exact legal_append.2 ⟨List.all_eq_true.1 (by decide), legal_toString index⟩
  | some name =>
    simp only [Field.texts, given, List.forall_mem_cons] at legal
    exact legal.1

theorem legal_conversionPlan {record : Record} {members : List ParsedField}
    (named : isName record.name = true)
    (legal : ∀ field ∈ record.fields, ∀ text ∈ field.texts, Legal text.toList) :
    ∀ text ∈ (conversionPlan record members).texts, Legal text.toList := by
  simp only [ConversionPlan.texts, List.forall_mem_cons, List.forall_mem_flatMap]
  refine ⟨legal_of_isName named, ?_, fun argument member => ?_⟩
  · change Legal (conversionMethod record.name).toList
    rw [conversionMethod, String.toList_append]
    exact legal_append.2 ⟨List.all_eq_true.1 (by decide), legal_snakeCase named⟩
  · obtain ⟨⟨field, index⟩, listed, rfl⟩ := List.mem_map.1 member
    obtain ⟨⟨original, position⟩, stands, same⟩ := List.mem_map.1 (List.mem_filter.1 listed).1
    cases same
    have own := legal field (List.fst_mem_of_mem_zipIdx stands)
    simp only [ConversionArgument.texts, List.forall_mem_cons]
    refine ⟨legal_argumentName own _, ?_, List.forall_mem_nil _⟩
    simp only [Field.texts, List.forall_mem_cons] at own
    exact own.2.2.1

theorem texts_of_signature {field original : Field} (same : field.signature = original.signature) :
    field.texts = original.texts := by
  simp only [Field.signature, Signature.mk.injEq] at same
  obtain ⟨name, visibility, type⟩ := same
  rw [Field.texts, name, visibility, type, Field.texts]

theorem undirected_record {definition : Definition}
    (undirected : ∀ note ∈ definition.allAnnotations, isDirective note = false) :
    definition.record.usesDirectives = false := by
  simp only [Definition.allAnnotations, List.forall_mem_append, List.forall_mem_flatMap]
    at undirected
  simp only [Record.usesDirectives, Bool.or_eq_false_iff, List.any_eq_false, List.any_eq_true,
    Bool.not_eq_true, not_exists, not_and]
  exact undirected

theorem Definition.Derives.writable {definition : Definition} {record : Record}
    (derives : definition.Derives record) (promised : record.Promised) : definition.Writable := by
  obtain ⟨texts, annotations⟩ := promised.writable
  simp only [Definition.texts, Record.unchanged, List.forall_mem_cons, List.forall_mem_append,
    List.forall_mem_flatMap] at texts
  obtain ⟨-, kind, ⟨generics, fields⟩, conversion⟩ := texts
  have marks : ∀ c ∈ documentationMarks, isLegal c = true := List.all_eq_true.1 (by decide)
  constructor
  · simp only [Definition.texts, List.forall_mem_cons, List.forall_mem_append,
      List.forall_mem_flatMap]
    refine ⟨legal_of_isName (derives.named promised.storable.named), derives.kind ▸ kind,
      ⟨fun generic member => generics generic (derives.generics member),
        fun field member => ?_⟩, ?_⟩
    · obtain ⟨original, stands, same, -⟩ := derives.fields field member
      rw [texts_of_signature same]
      exact fields original stands
    · cases given : definition.conversion with
      | none => exact List.forall_mem_nil _
      | some plan =>
        rcases derives.conversion plan given with own | ⟨members, within, rfl⟩
        · rw [own] at conversion
          exact conversion
        · exact legal_conversionPlan promised.storable.named fields
  · intro note member c inside
    rcases derives.characters member inside with mark | ⟨source, among, own⟩
    · exact marks c mark
    · exact annotations source among c own

theorem Definition.Derives.storable {definition : Definition} {record : Record}
    (derives : definition.Derives record) (storable : record.unchanged.Storable)
    (convertible : ∀ index ∈ definition.indices, isConvertible index = true) :
    definition.Storable := by
  have named : isName record.name = true := storable.named
  refine ⟨derives.named named, fun field member => ?_, derives.trimmed storable.trimmed,
    fun plan given => ?_⟩
  · obtain ⟨original, stands, same, -⟩ := derives.fields field member
    have type : field.type = original.type := congrArg Signature.type same
    rw [type]
    exact storable.typed original stands
  · rcases derives.conversion plan given with own | ⟨members, within, rfl⟩
    · exact storable.conversion plan own
    · rw [Definition.indices, given] at convertible
      exact storable_conversionPlan within (ne_empty_of_isName named) convertible

end RecordProjection
