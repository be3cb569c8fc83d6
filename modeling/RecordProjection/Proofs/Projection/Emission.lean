import RecordProjection.Proofs.Projection.Soundness

/-! What expansion returns. The definitions that stand ready for a record are sound whatever its
directives are, and a record without diagnostics has declared its names, so the check before
emission never refuses anything. -/

namespace RecordProjection
open Directive

theorem indices_eq_positions (record : Record) :
    record.parse.fields.map ParsedField.index = positions record.fields.length := by
  rw [parse_fields, List.map_map, positions, List.range_eq_range', ← List.zipIdx_map_snd,
    List.map_map]
  rfl

theorem indices_pairwise (record : Record) :
    (record.parse.fields.map ParsedField.index).Pairwise (· < ·) := by
  rw [indices_eq_positions, positions, List.pairwise_map]
  exact List.pairwise_lt_range.imp Int.ofNat_lt.2

theorem exists_of_mem_fields {record : Record} {field : ParsedField}
    (member : field ∈ record.parse.fields) :
    ∃ (position : Nat) (original : Field), record.fields[position]? = some original ∧
      field = original.parse record.name position := by
  rw [parse_fields] at member
  obtain ⟨⟨original, position⟩, stands, rfl⟩ := List.mem_map.1 member
  exact ⟨position, original, List.mk_mem_zipIdx_iff_getElem?.1 stands, rfl⟩

def ParsedRecord.allDefinitions (parsed : ParsedRecord) : List Definition :=
  parsed.sourceDefinition :: parsed.projections.map parsed.projectionDefinition

/-- What holds of a definition that is made of fields of a record, in any order. -/
structure Definition.Drawn (definition : Definition) (record : Record) : Prop where
  counts : definition.sourceIndices.length = definition.fields.length
  agrees : ∀ pair ∈ definition.sourceIndices.zip definition.fields,
    ∃ (position : Nat) (original : Field), pair.1 = position ∧
      record.fields[position]? = some original ∧
      pair.2.name = original.name ∧ pair.2.type = original.type
  undirected : ∀ note ∈ definition.allAnnotations, isDirective note = false

theorem drawn_of_members {record : Record} {members : List ParsedField} {target : String}
    {definition : Definition} (within : members ⊆ record.parse.fields)
    (indices : definition.sourceIndices = members.map ParsedField.index)
    (fields : definition.fields = members.map fun field => field.emit target)
    (annotations : definition.annotations = record.parse.annotationsIn target) :
    definition.Drawn record where
  counts := by rw [indices, fields, List.length_map, List.length_map]
  agrees := by
    intro pair member
    rw [indices, fields, List.zip_map', List.mem_map] at member
    obtain ⟨field, stands, rfl⟩ := member
    obtain ⟨position, original, found, rfl⟩ := exists_of_mem_fields (within stands)
    exact ⟨position, original, rfl, found, rfl, rfl⟩
  undirected := by
    intro note member
    rcases List.mem_append.1 member with own | inside
    · rw [annotations] at own
      exact (originates_of_mem_record own).undirected
    · obtain ⟨emitted, listed, carries⟩ := List.mem_flatMap.1 inside
      rw [fields, List.mem_map] at listed
      obtain ⟨field, stands, rfl⟩ := listed
      obtain ⟨position, original, -, rfl⟩ := exists_of_mem_fields (within stands)
      exact (originates_of_mem_field carries).undirected

theorem sound_of_sublist {record : Record} {members : List ParsedField} {target : String}
    {definition : Definition} (within : members.Sublist record.parse.fields)
    (indices : definition.sourceIndices = members.map ParsedField.index)
    (fields : definition.fields = members.map fun field => field.emit target)
    (annotations : definition.annotations = record.parse.annotationsIn target)
    (covers : ∀ generic ∈ usedGenerics record.generics (definition.fields.map Field.type),
      generic.name ∈ definition.generics.map Generic.name) :
    definition.Sound record := by
  have drawn := drawn_of_members within.subset indices fields annotations
  refine ⟨drawn.counts, ?_, drawn.agrees, covers, drawn.undirected⟩
  rw [indices]
  exact (indices_pairwise record).sublist (within.map _)

theorem types_emit (members : List ParsedField) (target : String) :
    (members.map fun field => field.emit target).map Field.type =
      members.map fun field => field.field.type :=
  List.map_map

theorem sound_sourceDefinition (record : Record) :
    record.parse.sourceDefinition.Sound record := by
  refine sound_of_sublist (List.Sublist.refl _) rfl rfl rfl fun generic used => ?_
  exact List.mem_map_of_mem (List.mem_filter.1 used).1

theorem mem_projections {record : Record} {spec : ProjectionSpec}
    (member : spec ∈ record.parse.projections) :
    spec.fields = record.parse.members spec.name ∧
      spec.generics = record.parse.genericsOf spec.name := by
  unfold ParsedRecord.projections at member
  split at member
  · cases member
  · obtain ⟨name, -, rfl⟩ := List.mem_map.1 member
    exact ⟨rfl, rfl⟩

theorem sound_projectionDefinition {record : Record} {spec : ProjectionSpec}
    (member : spec ∈ record.parse.projections) :
    (record.parse.projectionDefinition spec).Sound record := by
  obtain ⟨fields, generics⟩ := mem_projections member
  have within : spec.fields.Sublist record.parse.fields := fields ▸ List.filter_sublist
  refine sound_of_sublist within rfl rfl rfl fun generic used => ?_
  change generic ∈ usedGenerics record.generics
    ((spec.fields.map fun field => field.emit spec.name).map Field.type) at used
  change generic.name ∈ spec.generics.map Generic.name
  rw [types_emit, fields] at used
  exact List.mem_map_of_mem (generics ▸ used)

theorem sound_of_mem {record : Record} {definition : Definition}
    (member : definition ∈ record.parse.allDefinitions) : definition.Sound record := by
  rcases List.mem_cons.1 member with rfl | projected
  · exact sound_sourceDefinition record
  · obtain ⟨spec, listed, rfl⟩ := List.mem_map.1 projected
    exact sound_projectionDefinition listed

theorem isDeclared_of_ownDiagnostics {record : Record} (clean : record.ownDiagnostics = []) :
    record.IsDeclared := by
  unfold Record.ownDiagnostics at clean
  simp only [List.append_eq_nil_iff, List.flatMap_eq_nil_iff] at clean
  obtain ⟨⟨wellFormed, present⟩, -⟩ := clean
  constructor
  · by_contra missing
    have empty := (nameLists_eq_nil_iff record).2 fun note member kind =>
      missing ⟨note, member, kind⟩
    simp [Record.undeclaredDiagnostics, empty] at present
  · intro note member kind
    by_contra broken
    obtain ⟨list, listed, malformed⟩ := List.any_eq_true.1 <|
      (nameLists_isMalformed_iff record).2 ⟨note, member, kind, by simpa using broken⟩
    have quiet := wellFormed list listed
    unfold Located.isMalformed at malformed
    unfold Located.diagnostics at quiet
    cases reading : list.reading <;> simp [reading] at malformed quiet

theorem isDeclared_of_diagnostics {record : Record} (clean : record.diagnostics = []) :
    record.IsDeclared := by
  unfold Record.diagnostics Record.directiveDiagnostics at clean
  simp only [List.append_eq_nil_iff] at clean
  exact isDeclared_of_ownDiagnostics clean.1.1.2

/-- The record itself always passes the check, so the first projection that fails it decides. -/
theorem emit_of_declared {record : Record} (declares : record.parse.declared.isSome = true)
    (specs : List ProjectionSpec) :
    record.parse.emit specs =
      match specs.findSome? fun spec =>
        (record.parse.projectionDefinition spec).fault? record with
      | some fault => .error fault
      | none => .ok (record.parse.sourceDefinition ::
          specs.map record.parse.projectionDefinition) := by
  obtain ⟨declared, available⟩ := Option.isSome_iff_exists.1 declares
  have source : record.parse.sourceDefinition.fault? record = none :=
    (fault?_eq_none_iff _ record).2 (sound_sourceDefinition record)
  unfold ParsedRecord.emit
  rw [available]
  dsimp only
  rw [List.findSome?_cons, show record.parse.record = record from rfl, source, List.findSome?_map]
  rfl

theorem emit_eq {record : Record} (names : record.IsDeclared) :
    record.parse.emit record.parse.projections = .ok record.parse.allDefinitions := by
  have declares : record.parse.declared = some _ := declared_eq_some names
  have passes : (record.parse.projections.findSome? fun spec =>
      (record.parse.projectionDefinition spec).fault? record) = none :=
    List.findSome?_eq_none_iff.2 fun spec member =>
      (fault?_eq_none_iff _ record).2 (sound_projectionDefinition member)
  rw [emit_of_declared (by rw [declares]; rfl), passes]
  rfl

theorem expand_eq (record : Record) :
    record.expand = .ok ⟨record.parse, record.diagnostics,
      if record.diagnostics.isEmpty then record.parse.allDefinitions else []⟩ := by
  unfold Record.expand
  cases found : record.diagnostics with
  | nil => simp [emit_eq (isDeclared_of_diagnostics found), Except.map]
  | cons first rest => simp

theorem expand_of_clean {record : Record} (clean : record.diagnostics = []) :
    record.expand = .ok ⟨record.parse, [], record.parse.allDefinitions⟩ := by
  rw [expand_eq, clean]
  rfl

theorem emitted_of_expand {record : Record} {expansion : Expansion} {definition : Definition}
    (expanded : record.expand = .ok expansion) (member : definition ∈ expansion.definitions) :
    record.diagnostics = [] ∧ definition ∈ record.parse.allDefinitions := by
  rw [expand_eq, Except.ok.injEq] at expanded
  subst expanded
  dsimp only at member
  split at member
  · rename_i clean
    exact ⟨List.isEmpty_iff.1 clean, member⟩
  · cases member

/-- No directives whatever make the check before emission fail. Without diagnostics the declared
names are available, and the definitions are sound, which is what the check asks of them. -/
theorem expand_never_faults (record : Record) :
    (∃ expansion, record.expand = .ok expansion) ∧
      (record.diagnostics = [] → record.parse.declared.isSome = true ∧
        ∀ definition ∈ record.parse.sourceDefinition ::
            record.parse.projections.map record.parse.projectionDefinition,
          definition.Sound record ∧ definition.fault? record = none) := by
  refine ⟨⟨_, expand_eq record⟩, fun clean => ⟨?_, fun definition member => ?_⟩⟩
  · have declares : record.parse.declared = some _ :=
      declared_eq_some (isDeclared_of_diagnostics clean)
    rw [declares, Option.isSome_some]
  · have sound : definition.Sound record := sound_of_mem member
    exact ⟨sound, (fault?_eq_none_iff definition record).2 sound⟩

end RecordProjection
