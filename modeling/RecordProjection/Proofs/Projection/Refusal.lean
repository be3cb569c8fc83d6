import RecordProjection.Proofs.Projection.Diagnosis

/-! Which projections the check before emission refuses. They may be put together from the fields of
a record in any way and have any name and any parameters; what can be wrong with them is only that
the fields have lost the order of the record, or that a parameter which they mention is missing. -/

namespace RecordProjection
open Directive

inductive ProjectionSpec.Flaw (spec : ProjectionSpec) (record : Record) : InvariantFault → Prop
  /-- Some field does not stand behind all those before it. -/
  | disorder (unordered : ¬ (spec.fields.map ParsedField.index).Pairwise (· < ·)) :
      Flaw spec record (.outOfOrder spec.name)
  | omission {generic : Generic} (known : generic ∈ record.generics)
      (mentioned : Mentions (spec.fields.map fun field => field.field.type) generic.name)
      (missing : generic.name ∉ spec.generics.map Generic.name) :
      Flaw spec record (.undeclaredGeneric spec.name generic.name)

/-- Made of fields of the record, a definition can only fail in its order and its parameters. -/
theorem fault_of_drawn {definition : Definition} {record : Record} {fault : InvariantFault}
    (drawn : definition.Drawn record) (found : definition.fault? record = some fault) :
    (¬ definition.sourceIndices.Pairwise (· < ·) ∧ fault = .outOfOrder definition.name) ∨
      ∃ generic ∈ usedGenerics record.generics (definition.fields.map Field.type),
        generic.name ∉ definition.generics.map Generic.name ∧
          fault = .undeclaredGeneric definition.name generic.name := by
  have fields : ((definition.sourceIndices.zip definition.fields).findSome? fun pair =>
      definition.fieldFault? record pair.1 pair.2) = none :=
    List.findSome?_eq_none_iff.2 fun pair member =>
      (fieldFault?_eq_none_iff definition record pair.1 pair.2).2 (drawn.agrees pair member)
  have notes : definition.allAnnotations.find? isDirective = none :=
    List.find?_eq_none.2 fun note member => by simp [drawn.undirected note member]
  unfold Definition.fault? at found
  dsimp only at found
  rw [if_neg (not_not_intro drawn.counts)] at found
  by_cases increasing : isIncreasing definition.sourceIndices = true
  · rw [if_neg (by simp [increasing]), fields, notes] at found
    simp only [Option.orElse_eq_orElse, Option.orElse_eq_or, Option.none_or, Option.map_none,
      Option.or_none, Option.map_eq_some_iff] at found
    obtain ⟨generic, first, rfl⟩ := found
    refine .inr ⟨generic, List.mem_of_find?_eq_some first, ?_, rfl⟩
    simpa using List.find?_some first
  · rw [if_pos (by simp [increasing])] at found
    cases found
    exact .inl ⟨fun ordered => increasing ((isIncreasing_iff _).2 ordered), rfl⟩

section Projection

variable {record : Record} {spec : ProjectionSpec} {fault : InvariantFault}

theorem flaw_of_fault? (within : spec.fields ⊆ record.parse.fields)
    (found : (record.parse.projectionDefinition spec).fault? record = some fault) :
    spec.Flaw record fault := by
  have drawn : (record.parse.projectionDefinition spec).Drawn record :=
    drawn_of_members within rfl rfl rfl
  rcases fault_of_drawn drawn found with ⟨unordered, rfl⟩ | ⟨generic, used, missing, rfl⟩
  · exact .disorder unordered
  · obtain ⟨known, mentioned⟩ := List.mem_filter.1 used
    refine .omission known ((isUsed_iff _ _).1 ?_) missing
    exact types_emit spec.fields spec.name ▸ mentioned

theorem not_sound_of_flaw (flaw : spec.Flaw record fault) :
    ¬ (record.parse.projectionDefinition spec).Sound record := by
  intro sound
  cases flaw with
  | disorder unordered => exact unordered sound.ordered
  | omission known mentioned missing =>
    refine missing (sound.covers _ (List.mem_filter.2 ⟨known, ?_⟩))
    exact (isUsed_iff _ _).2 (types_emit spec.fields spec.name ▸ mentioned)

theorem exists_flaw_iff :
    (∃ fault, spec.Flaw record fault) ↔
      ¬ (spec.fields.map ParsedField.index).Pairwise (· < ·) ∨
        ∃ generic ∈ record.generics,
          Mentions (spec.fields.map fun field => field.field.type) generic.name ∧
            generic.name ∉ spec.generics.map Generic.name := by
  constructor
  · rintro ⟨fault, flaw⟩
    cases flaw with
    | disorder unordered => exact .inl unordered
    | omission known mentioned missing => exact .inr ⟨_, known, mentioned, missing⟩
  · rintro (unordered | ⟨generic, known, mentioned, missing⟩)
    · exact ⟨_, .disorder unordered⟩
    · exact ⟨_, .omission known mentioned missing⟩

theorem passes_iff (within : spec.fields ⊆ record.parse.fields) :
    (record.parse.projectionDefinition spec).fault? record = none ↔
      ∀ fault, ¬ spec.Flaw record fault := by
  constructor
  · exact fun passes fault flaw => not_sound_of_flaw flaw ((fault?_eq_none_iff _ _).1 passes)
  · intro flawless
    refine Option.eq_none_iff_forall_not_mem.2 fun fault found => ?_
    exact flawless fault (flaw_of_fault? within found)

end Projection

section Emission

variable {record : Record} {specs : List ProjectionSpec}

theorem emit_of_flawless (declares : record.parse.declared.isSome = true)
    (within : ∀ spec ∈ specs, spec.fields ⊆ record.parse.fields)
    (flawless : ¬ ∃ spec ∈ specs, ∃ fault, spec.Flaw record fault) :
    record.parse.emit specs =
      .ok (record.parse.sourceDefinition :: specs.map record.parse.projectionDefinition) := by
  have passes : (specs.findSome? fun spec =>
      (record.parse.projectionDefinition spec).fault? record) = none :=
    List.findSome?_eq_none_iff.2 fun spec member =>
      (passes_iff (within spec member)).2 fun fault flaw => flawless ⟨spec, member, fault, flaw⟩
  rw [emit_of_declared declares, passes]

theorem flaw_of_emit {fault : InvariantFault} (declares : record.parse.declared.isSome = true)
    (within : ∀ spec ∈ specs, spec.fields ⊆ record.parse.fields)
    (refused : record.parse.emit specs = .error fault) :
    ∃ spec ∈ specs, spec.Flaw record fault := by
  rw [emit_of_declared declares] at refused
  split at refused
  · rename_i first found
    cases refused
    obtain ⟨spec, member, faulty⟩ := List.exists_of_findSome?_eq_some found
    exact ⟨spec, member, flaw_of_fault? (within spec member) faulty⟩
  · cases refused

theorem refused_of_flaw {spec : ProjectionSpec} {flaw : InvariantFault}
    (declares : record.parse.declared.isSome = true)
    (within : ∀ spec ∈ specs, spec.fields ⊆ record.parse.fields)
    (member : spec ∈ specs) (flawed : spec.Flaw record flaw) :
    ∃ fault, record.parse.emit specs = .error fault := by
  rw [emit_of_declared declares]
  split
  · exact ⟨_, rfl⟩
  · rename_i passes
    have passed := List.findSome?_eq_none_iff.1 passes spec member
    exact absurd flawed ((passes_iff (within spec member)).1 passed flaw)

end Emission

/-- Projections made of fields of a record that declares its names are refused if and only if one of
them has a flaw, and for that flaw; otherwise all of them are emitted, behind the record itself. -/
theorem emit_refuses_iff {record : Record} {specs : List ProjectionSpec}
    (declares : record.parse.declared.isSome = true)
    (within : ∀ spec ∈ specs, spec.fields ⊆ record.parse.fields) :
    ((∃ fault, record.parse.emit specs = .error fault) ↔
        ∃ spec ∈ specs, ∃ fault, spec.Flaw record fault) ∧
      (∀ fault, record.parse.emit specs = .error fault →
        ∃ spec ∈ specs, spec.Flaw record fault) ∧
      ((¬ ∃ spec ∈ specs, ∃ fault, spec.Flaw record fault) →
        record.parse.emit specs =
          .ok (record.parse.sourceDefinition :: specs.map record.parse.projectionDefinition)) := by
  refine ⟨⟨?_, ?_⟩, fun fault => flaw_of_emit declares within, emit_of_flawless declares within⟩
  · rintro ⟨fault, refused⟩
    obtain ⟨spec, member, flaw⟩ := flaw_of_emit declares within refused
    exact ⟨spec, member, fault, flaw⟩
  · rintro ⟨spec, member, fault, flaw⟩
    exact refused_of_flaw declares within member flaw

theorem emit_refuses_iff_reported :
    let record : Record :=
      { name := "R"
        generics := [⟨"T", none⟩]
        annotations := ["substruct(A)"]
        fields := [⟨some "x", "", "Vec<T>", []⟩, ⟨some "y", "", "u32", ["substruct(B)"]⟩] }
    let fields := record.parse.fields
    let sound : List ProjectionSpec := [⟨"C", fields, record.generics⟩, ⟨"R", fields.drop 1, []⟩]
    let turned : ProjectionSpec := ⟨"turned", fields.reverse, record.generics⟩
    let twice : ProjectionSpec := ⟨"twice", fields.take 1 ++ fields.take 1, record.generics⟩
    let less : ProjectionSpec := ⟨"less", fields, []⟩
    record.report ≠ [] ∧
      record.parse.emit sound =
        .ok (record.parse.sourceDefinition :: sound.map record.parse.projectionDefinition) ∧
      (∃ fault, record.parse.emit (sound ++ [turned]) = .error fault) ∧
      (∃ fault, record.parse.emit (sound ++ [twice]) = .error fault) ∧
      ∃ fault, record.parse.emit (sound ++ [less]) = .error fault := by
  intro record fields sound turned twice less
  have names : record.IsDeclared := by decide +kernel
  have declares : record.parse.declared.isSome = true := by
    rw [show record.parse.declared = some _ from declared_eq_some names, Option.isSome_some]
  have indices : fields.map ParsedField.index = [0, 1] := by
    rw [indices_eq_positions]
    rfl
  have types : (fields.map fun field => field.field.type) = ["Vec<T>", "u32"] := by
    rw [show fields = _ from parse_fields record]
    rfl
  have within : ∀ spec ∈ sound, spec.fields ⊆ fields := by
    intro spec member
    rcases List.mem_pair.1 member with rfl | rfl
    exacts [List.Subset.refl _, List.drop_subset 1 _]
  have flawless : ¬ ∃ spec ∈ sound, ∃ fault, spec.Flaw record fault := by
    simp only [sound, exists_flaw_iff, List.exists_mem_cons_iff, List.map_drop, indices, types]
    decide +kernel
  have refused (spec : ProjectionSpec) (drawn : spec.fields ⊆ fields)
      (flawed : ∃ fault, spec.Flaw record fault) :
      ∃ fault, record.parse.emit (sound ++ [spec]) = .error fault := by
    refine (emit_refuses_iff declares fun other member => ?_).1.2 ⟨spec, by simp, flawed⟩
    rcases List.mem_append.1 member with old | last
    · exact within other old
    · exact List.mem_singleton.1 last ▸ drawn
  refine ⟨by decide +kernel, (emit_refuses_iff declares within).2.2 flawless, ?_, ?_, ?_⟩
  · refine refused turned (by simp [turned]) (exists_flaw_iff.2 (.inl ?_))
    simp only [turned, List.map_reverse, indices]
    decide
  · refine refused twice (by simp [twice, List.take_subset]) (exists_flaw_iff.2 (.inl ?_))
    simp only [twice, List.map_append, List.map_take, indices]
    decide
  · refine refused less (List.Subset.refl _) (exists_flaw_iff.2 (.inr ?_))
    simp only [less, types]
    decide +kernel

end RecordProjection
