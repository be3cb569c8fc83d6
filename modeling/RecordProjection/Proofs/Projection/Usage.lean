import RecordProjection.Proofs.Projection.Context
import RecordProjection.Proofs.Projection.Diagnosis
import RecordProjection.Proofs.Projection.Occurrence

/-! Which generic parameters are used, and which are reported. A parameter is used by a type in
which its name occurs, and it is reported for a projection if it occurs in the type of none of the
fields that the projection keeps. -/

namespace RecordProjection
open Directive Text

theorem mentions_iff {types : List String} {parameter : String} :
    Mentions types parameter ↔ ∃ type ∈ types, Occurs parameter.toList type.toList :=
  exists_congr fun _ => and_congr_right fun _ => mem_typeWords_iff

section Reports
variable {record : Record} {diagnostic : Diagnostic} {projection parameter location : String}

theorem ne_unusedGeneric_of_located {α : Type} {declared : Option Declared}
    {names : α → List String} {directive : Located α}
    (member : diagnostic ∈ directive.diagnostics declared names) :
    diagnostic ≠ .unusedGeneric projection parameter location := by
  obtain ⟨place, cause | value⟩ := directive
  · rw [List.mem_singleton.1 member]
    simp
  · obtain ⟨-, target, rfl⟩ := mem_unknownTargets member
    simp

theorem ne_unusedGeneric_of_directives (member : diagnostic ∈ record.directiveDiagnostics) :
    diagnostic ≠ .unusedGeneric projection parameter location := by
  simp only [Record.directiveDiagnostics, Record.ownDiagnostics, List.mem_append,
    List.mem_flatMap] at member
  rcases member with (kind | (⟨_, -, list⟩ | absent) | ⟨_, -, added⟩) | ⟨⟨field, index⟩, -, inside⟩
  · unfold Record.kindDiagnostics at kind
    split at kind
    · cases kind
    · rw [List.mem_singleton.1 kind]
      simp
  · exact ne_unusedGeneric_of_located list
  · unfold Record.undeclaredDiagnostics at absent
    split at absent
    · rw [List.mem_singleton.1 absent]
      simp
    · cases absent
  · exact ne_unusedGeneric_of_located added
  · obtain ⟨directive, -, reported⟩ := List.mem_flatMap.1 inside
    exact ne_unusedGeneric_of_located reported

theorem mem_unusedGenerics_iff {target : String} :
    .unusedGeneric projection parameter location ∈ record.parse.unusedGenerics target ↔
      target = projection ∧ location = record.name ∧
        (∃ generic ∈ record.generics, generic.name = parameter) ∧
        ∀ field ∈ record.parse.members target,
          ¬ Occurs parameter.toList field.field.type.toList := by
  have unmentioned : ∀ name,
      ¬ Mentions ((record.parse.members target).map fun field => field.field.type) name ↔
        ∀ field ∈ record.parse.members target, ¬ Occurs name.toList field.field.type.toList := by
    intro name
    rw [mentions_iff]
    simp
  rw [unusedGenerics_report, ← members_types, List.mem_filterMap]
  constructor
  · rintro ⟨generic, member, reported⟩
    split_ifs at reported with mentioned
    cases reported
    exact ⟨rfl, rfl, ⟨generic, member, rfl⟩, (unmentioned _).1 mentioned⟩
  · rintro ⟨rfl, rfl, ⟨generic, member, rfl⟩, absent⟩
    exact ⟨generic, member, if_neg ((unmentioned _).2 absent)⟩

theorem unusedGeneric_mem_diagnostics_iff :
    .unusedGeneric projection parameter location ∈ record.diagnostics ↔
      location = record.name ∧ ∃ declared, record.declared = some declared ∧
        projection ∈ declared.projections ∧
        (∃ generic ∈ record.generics, generic.name = parameter) ∧
        ∀ field ∈ record.parse.members projection,
          ¬ Occurs parameter.toList field.field.type.toList := by
  have others : .unusedGeneric projection parameter location ∉ record.directiveDiagnostics :=
    fun member => ne_unusedGeneric_of_directives member rfl
  have same : record.parse.declared = record.declared := rfl
  rw [Record.diagnostics, List.mem_append, or_iff_right others,
    ParsedRecord.projectionDiagnostics, same]
  cases record.declared with
  | none => simp
  | some declared =>
    simp only [List.mem_append, List.mem_map, reduceCtorEq, and_false, exists_false, false_or,
      List.mem_flatMap, mem_unusedGenerics_iff, Option.some.injEq, exists_eq_left']
    constructor
    · rintro ⟨target, member, rfl, rfl, listed, absent⟩
      exact ⟨rfl, member, listed, absent⟩
    · rintro ⟨rfl, member, listed, absent⟩
      exact ⟨projection, member, rfl, rfl, listed, absent⟩

end Reports

/-- Names and lifetimes are words of a type where they occur, and it has no other words. Parameters
that occur are used, in their order, and each one that occurs in no field of a projection is
reported for it. -/
theorem usage_by_occurrence :
    (∀ type name : String, isIdentifier name.toList = true →
      (name ∈ vocabulary type ↔ ∃ before after,
        type.toList = before ++ (name.toList ++ after) ∧
          (∀ c ∈ before.rtakeWhile isIdentChar, c.isDigit = true) ∧
          before.getLast? ≠ some apostrophe ∧ StartsFresh after)) ∧
    (∀ type name : String, isIdentifier name.toList = true →
      ("'" ++ name ∈ vocabulary type ↔ ∃ before after,
        type.toList = before ++ (apostrophe :: name.toList ++ after) ∧ StartsFresh after)) ∧
    (∀ type word : String, word ∈ vocabulary type →
      ∃ name : String, isIdentifier name.toList = true ∧ (word = name ∨ word = "'" ++ name)) ∧
    (∀ (generics : List Generic) (types : List String), usedGenerics generics types =
      generics.filter fun generic => ∃ type ∈ types, Occurs generic.name.toList type.toList) ∧
    ∀ record : Record, ∃ expansion, record.expand = .ok expansion ∧
      ∀ projection parameter location,
        .unusedGeneric projection parameter location ∈ expansion.diagnostics ↔
          location = record.name ∧ ∃ declared, record.declared = some declared ∧
            projection ∈ declared.projections ∧
            (∃ generic ∈ record.generics, generic.name = parameter) ∧
            ∀ field ∈ record.parse.members projection,
              ¬ Occurs parameter.toList field.field.type.toList := by
  have marked (name : String) : ("'" ++ name).toList = apostrophe :: name.toList := by
    rw [String.toList_append]
    rfl
  refine ⟨?names, ?lifetimes, ?others, ?used, ?reported⟩
  case names =>
    intro type name identifier
    rw [mem_vocabulary_iff, occurs_name_iff identifier]
    refine exists₂_congr fun before after => and_congr_right fun _ => ?_
    exact ⟨fun ⟨begins, ends⟩ => ⟨begins.digits, begins.unmarked, ends⟩,
      fun ⟨digits, unmarked, ends⟩ => ⟨⟨digits, unmarked⟩, ends⟩⟩
  case lifetimes =>
    intro type name identifier
    rw [mem_vocabulary_iff, marked, occurs_lifetime_iff identifier]
  case others =>
    intro type word member
    obtain ⟨before, after, -, behind, -⟩ := mem_vocabulary_iff.1 member
    rcases isLexeme_ident_iff.1 behind.lexeme with identifier | ⟨name, identifier, same⟩
    · exact ⟨word, identifier, .inl rfl⟩
    · refine ⟨.ofList name, by rwa [String.toList_ofList], .inr (String.toList_inj.1 ?_)⟩
      rw [marked, String.toList_ofList, same]
  case used =>
    intro generics types
    refine List.filter_congr fun generic _ => ?_
    rw [Bool.eq_iff_iff, isUsed_iff, mentions_iff, decide_eq_true_eq]
  case reported =>
    intro record
    exact ⟨_, expand_eq record, fun _ _ _ => unusedGeneric_mem_diagnostics_iff⟩

theorem usage_by_occurrence_mixed :
    let type := "ñU<12T, 'a>"
    let record : Record :=
      { name := "R"
        generics := [⟨"'a", none⟩, ⟨"T", none⟩]
        annotations := ["substruct(S)"]
        fields := [⟨some "x", "", type, []⟩, ⟨some "y", "", "T1<'a>", ["substruct(S)"]⟩] }
    (isIdentifier "T".toList = true ∧ "T" ∈ vocabulary type) ∧
      (isIdentifier "U".toList = true ∧ "U" ∈ vocabulary type) ∧
      (isIdentifier "a".toList = true ∧ "'a" ∈ vocabulary type) ∧
      (∃ name : String, isIdentifier name.toList = true ∧ ("'a" = name ∨ "'a" = "'" ++ name)) ∧
      usedGenerics record.generics ["T1<'a>"] = [⟨"'a", none⟩] ∧
      ∃ expansion, record.expand = .ok expansion ∧
        .unusedGeneric "S" "T" "R" ∈ expansion.diagnostics ∧
        .unusedGeneric "S" "'a" "R" ∉ expansion.diagnostics := by
  intro type record
  obtain ⟨names, lifetimes, others, used, reported⟩ := usage_by_occurrence
  have digits : ∀ c ∈ "ñU<12".toList.rtakeWhile isIdentChar, c.isDigit = true :=
    List.all_eq_true.1 (by decide)
  have foreign : ∀ c ∈ "ñ".toList.rtakeWhile isIdentChar, c.isDigit = true :=
    List.all_eq_true.1 (by decide)
  have first : "T" ∈ vocabulary type := by
    refine (names type "T" (by decide)).2 ⟨"ñU<12".toList, ", 'a>".toList, by decide,
      digits, by decide, ?_⟩
    rintro c ⟨⟩
    decide
  have second : "U" ∈ vocabulary type := by
    refine (names type "U" (by decide)).2 ⟨"ñ".toList, "<12T, 'a>".toList, by decide,
      foreign, by decide, ?_⟩
    rintro c ⟨⟩
    decide
  have lifetime : "'a" ∈ vocabulary type := by
    refine (lifetimes type "a" (by decide)).2 ⟨"ñU<12T, ".toList, ">".toList, by decide, ?_⟩
    rintro c ⟨⟩
    decide
  obtain ⟨expansion, expanded, unused⟩ := reported record
  have declares : record.declared = some _ := declared_eq_some (by decide +kernel)
  refine ⟨⟨by decide, first⟩, ⟨by decide, second⟩, ⟨by decide, lifetime⟩,
    others type "'a" lifetime, ?_, expansion, expanded, ?_, ?_⟩
  · rw [used]
    decide +kernel
  · exact (unused _ _ _).2 ⟨rfl, _, declares, by decide +kernel, ⟨⟨"T", none⟩, by decide, rfl⟩,
      by decide +kernel⟩
  · intro member
    obtain ⟨-, -, -, -, -, absent⟩ := (unused _ _ _).1 member
    revert absent
    decide +kernel

end RecordProjection
