import RecordProjection.Proofs.Projection.Reference

/-! What a record is reported for, said annotation by annotation. A malformed directive is reported
for itself and hides no other; names are only looked up where the record declares names, and so are
repetitions and unused generic parameters. Expansion reports exactly this list, in this order, and
emits nothing if and only if there is something to report. -/

namespace RecordProjection
open Directive

instance (record : Record) : Decidable record.IsDeclared :=
  inferInstanceAs (Decidable (_ ∧ _))

def Membership.mentioned (entries : Membership) : List String :=
  entries.flatMap fun entry => entry.selector.names

def mentionedBy? (note : String) : Option (Except Malformation (List String)) :=
  (directiveKind? note).map fun
    | .membership => Membership.mentioned <$> membership note
    | .override => (fun added => added.selector.names) <$> override note

def Mentions (types : List String) (parameter : String) : Prop :=
  ∃ type ∈ types, parameter ∈ typeWords type

instance (types : List String) (parameter : String) : Decidable (Mentions types parameter) :=
  inferInstanceAs (Decidable (∃ type ∈ types, _))

namespace Record

def listReport (record : Record) : List Diagnostic :=
  record.annotations.zipIdx.flatMap fun (note, position) =>
    if directiveKind? note = some .membership then
      match declaredNames note with
      | .ok _ => []
      | .error cause => [.malformed cause (annotationLocation record.name position)]
    else []

def absenceReport (record : Record) : List Diagnostic :=
  if ∃ note ∈ record.annotations, directiveKind? note = some .membership then []
  else [.malformed (.undeclared record.name) record.name]

/-- A directive is reported as malformed, or for each of its distinct names that is not to be
created; the latter only if it is settled which names are. -/
def selectorReport (record : Record) (location : String) :
    Except Malformation (List String) → List Diagnostic
  | .error cause => [.malformed cause location]
  | .ok mentioned =>
    if record.IsDeclared then
      (mentioned.eraseDups.filter fun name => name ≠ record.name ∧ name ∉ record.allNames).map
        fun name => .unknownTarget name location
    else []

def overrideReport (record : Record) : List Diagnostic :=
  record.annotations.zipIdx.flatMap fun (note, position) =>
    if directiveKind? note = some .override then
      record.selectorReport (annotationLocation record.name position)
        ((fun added => added.selector.names) <$> override note)
    else []

def fieldReport (record : Record) : List Diagnostic :=
  record.fields.zipIdx.flatMap fun (field, index) =>
    field.annotations.zipIdx.flatMap fun (note, position) =>
      (mentionedBy? note).elim []
        (record.selectorReport
          (annotationLocation (fieldLocation record.name index field) position))

def repetitionReport (record : Record) : List Diagnostic :=
  record.allNames.zipIdx.filterMap fun (name, position) =>
    if name ∈ record.allNames.take position then some (.duplicateProjection name record.name)
    else none

def genericReport (record : Record) : List Diagnostic :=
  record.createdNames.flatMap fun target =>
    let types := (record.fields.filter (Field.joins target)).map Field.type
    record.generics.filterMap fun generic =>
      if Mentions types generic.name then none
      else some (.unusedGeneric target generic.name record.name)

def report (record : Record) : List Diagnostic :=
  (if record.kind = "struct" then [] else [.unsupportedKind record.kind record.name]) ++
    record.listReport ++ record.absenceReport ++ record.overrideReport ++ record.fieldReport ++
    if record.IsDeclared then record.repetitionReport ++ record.genericReport else []

end Record

theorem nameLists_diagnostics (record : Record) :
    record.nameLists.flatMap (Located.diagnostics none fun _ => []) = record.listReport := by
  rw [Record.nameLists, flatMap_directivesOf, Record.listReport]
  refine List.flatMap_congr fun entry _ => ?_
  rcases kind : directiveKind? entry.1 with _ | _ | _ <;>
    rcases read : declaredNames entry.1 with _ | names <;>
    simp [readingOf, kind, read, Located.diagnostics, unknownTargets]

theorem undeclaredDiagnostics_eq (record : Record) :
    record.undeclaredDiagnostics = record.absenceReport := by
  unfold Record.undeclaredDiagnostics Record.absenceReport
  by_cases present : ∃ note ∈ record.annotations, directiveKind? note = some .membership
  · have nonempty : record.nameLists.isEmpty = false := by
      rw [List.isEmpty_eq_false_iff, ne_eq, nameLists_eq_nil_iff]
      obtain ⟨note, member, kind⟩ := present
      exact fun missing => missing note member kind
    rw [if_pos present, nonempty]
    rfl
  · have empty : record.nameLists = [] :=
      (nameLists_eq_nil_iff record).2 fun note member kind => present ⟨note, member, kind⟩
    rw [if_neg present, empty]
    rfl

theorem isKnown_ofEntries (source : String) (entries : List NameEntry) (name : String) :
    (Declared.ofEntries source entries).isKnown name = true ↔
      name = source ∨ name ∈ entries.map NameEntry.name := by
  simp [Declared.isKnown, Declared.ofEntries]

theorem unknownTargets_eq (record : Record) (location : String) (mentioned : List String) :
    unknownTargets record.declared location mentioned.eraseDups =
      record.selectorReport location (.ok mentioned) := by
  dsimp only [Record.selectorReport]
  by_cases names : record.IsDeclared
  · rw [if_pos names, declared_eq_some names]
    unfold unknownTargets
    refine congrArg (List.map _) (List.filter_congr fun name _ => ?_)
    rw [Bool.eq_iff_iff, Bool.not_eq_true', ← Bool.not_eq_true, isKnown_ofEntries, not_or,
      decide_eq_true_eq]
    rfl
  · rw [if_neg names, declared_eq_none names]
    rfl

theorem overrideDirectives_diagnostics (record : Record) :
    record.overrideDirectives.flatMap (Located.diagnostics record.declared Override.names) =
      record.overrideReport := by
  rw [Record.overrideDirectives, flatMap_directivesOf, Record.overrideReport]
  refine List.flatMap_congr fun entry _ => ?_
  rcases kind : directiveKind? entry.1 with _ | _ | _
  · simp [readingOf, kind]
  · simp [readingOf, kind]
  · rcases read : override entry.1 with cause | added
    · simp [readingOf, kind, read, Located.diagnostics, Record.selectorReport, Functor.map,
        Except.map]
    · simp [readingOf, kind, read, Located.diagnostics, Functor.map, Except.map, Override.names,
        unknownTargets_eq]

theorem field_diagnostics (record : Record) (field : Field) (index : Nat) :
    field.diagnostics record.name index record.declared =
      field.annotations.zipIdx.flatMap fun entry =>
        (mentionedBy? entry.1).elim [] (record.selectorReport
          (annotationLocation (fieldLocation record.name index field) entry.2)) := by
  rw [Field.diagnostics, Field.directives, flatMap_directivesOf]
  refine List.flatMap_congr fun entry _ => ?_
  rcases kind : directiveKind? entry.1 with _ | _ | _
  · simp [readingOf, mentionedBy?, kind]
  · rcases read : membership entry.1 with cause | entries
    · simp [readingOf, mentionedBy?, kind, read, Located.diagnostics, Record.selectorReport,
        Functor.map, Except.map]
    · have distinct : (FieldDirective.membership entries).names =
        (Membership.mentioned entries).eraseDups := rfl
      simp [readingOf, mentionedBy?, kind, read, Located.diagnostics, Functor.map, Except.map,
        distinct, unknownTargets_eq]
  · rcases read : override entry.1 with cause | added
    · simp [readingOf, mentionedBy?, kind, read, Located.diagnostics, Record.selectorReport,
        Functor.map, Except.map]
    · have distinct : (FieldDirective.override added).names =
        added.selector.names.eraseDups := rfl
      simp [readingOf, mentionedBy?, kind, read, Located.diagnostics, Functor.map, Except.map,
        distinct, unknownTargets_eq]

theorem indexedFields_diagnostics (record : Record) :
    (record.indexedFields.flatMap fun (field, index) =>
      field.diagnostics record.name index record.declared) = record.fieldReport := by
  rw [Record.indexedFields, List.flatMap_map, Record.fieldReport]
  exact List.flatMap_congr fun entry _ => field_diagnostics record entry.1 entry.2

theorem repetitions_eq (seen names : List String) :
    repetitions seen names = names.zipIdx.filterMap fun entry =>
      if entry.1 ∈ seen ∨ entry.1 ∈ names.take entry.2 then some entry.1 else none := by
  induction names generalizing seen with
  | nil => rfl
  | cons first rest ih =>
    have later : rest.zipIdx 1 = rest.zipIdx.map fun entry => (entry.1, entry.2 + 1) :=
      List.zipIdx_succ
    rw [List.zipIdx_cons, List.filterMap_cons, Nat.zero_add, later, List.filterMap_map]
    by_cases known : first ∈ seen
    · have same : ∀ name tail, (name ∈ seen ∨ name ∈ first :: tail) ↔
          name ∈ seen ∨ name ∈ tail := by
        intro name tail
        rw [List.mem_cons]
        constructor
        · rintro (old | rfl | late)
          exacts [.inl old, .inl known, .inr late]
        · rintro (old | late)
          exacts [.inl old, .inr (.inr late)]
      rw [repetitions, if_pos (List.contains_iff_mem.2 known), ih]
      simp only [known, List.take_zero, List.not_mem_nil, or_false, if_true, Function.comp_def,
        List.take_succ_cons, same]
    · have moved : ∀ name tail, (name ∈ seen ∨ name ∈ first :: tail) ↔
          name ∈ first :: seen ∨ name ∈ tail := by
        intro name tail
        rw [List.mem_cons, List.mem_cons, ← or_assoc, or_comm (a := name ∈ seen)]
      rw [repetitions, if_neg (by simpa using known), ih]
      simp only [known, List.take_zero, List.not_mem_nil, or_self, if_false, Function.comp_def,
        List.take_succ_cons, moved]

theorem repetitions_report (record : Record) :
    ((repetitions [] record.allNames).map fun name =>
      Diagnostic.duplicateProjection name record.name) = record.repetitionReport := by
  rw [repetitions_eq, Record.repetitionReport, List.map_filterMap]
  refine List.filterMap_congr fun entry _ => ?_
  by_cases before : entry.1 ∈ record.allNames.take entry.2 <;> simp [before]

theorem isUsed_iff (types : List String) (parameter : String) :
    isUsed types parameter = true ↔ Mentions types parameter := by
  simp [isUsed, Mentions]

theorem members_types (record : Record) (target : String) :
    ((record.parse.members target).map fun field => field.field.type) =
      (record.fields.filter (Field.joins target)).map Field.type := by
  unfold ParsedRecord.members
  rw [parse_fields, List.filter_map, List.map_map]
  conv_rhs => rw [← List.zipIdx_map_fst 0 record.fields, List.filter_map, List.map_map]
  simp only [Function.comp_def, matches_parse, parse_field]

theorem unusedGenerics_report (record : Record) (target : String) :
    record.parse.unusedGenerics target =
      record.generics.filterMap fun generic =>
        if Mentions ((record.fields.filter (Field.joins target)).map Field.type) generic.name
          then none
        else some (.unusedGeneric target generic.name record.name) := by
  -- Parameters of one name are used together, so looking for the name in the used ones is enough.
  have listed : ∀ generic ∈ record.generics,
      generic.name ∈ (record.parse.genericsOf target).map Generic.name ↔
        Mentions ((record.fields.filter (Field.joins target)).map Field.type) generic.name := by
    intro generic member
    rw [← members_types, ← isUsed_iff, List.mem_map]
    constructor
    · rintro ⟨other, used, same⟩
      exact same ▸ (List.mem_filter.1 used).2
    · exact fun used => ⟨generic, List.mem_filter.2 ⟨member, used⟩, rfl⟩
  dsimp only [ParsedRecord.unusedGenerics]
  rw [← List.filterMap_eq_map (f := fun generic => Diagnostic.unusedGeneric _ _ _),
    List.filterMap_filter]
  refine List.filterMap_congr fun generic member => ?_
  by_cases used : generic.name ∈ (record.parse.genericsOf target).map Generic.name
  · rw [if_pos ((listed generic member).1 used)]
    simp only [List.contains_iff_mem.2 used]
    rfl
  · rw [if_neg fun mentions => used ((listed generic member).2 mentions)]
    simp only [List.contains_eq_mem, used]
    rfl

theorem projectionDiagnostics_eq (record : Record) :
    record.parse.projectionDiagnostics =
      if record.IsDeclared then record.repetitionReport ++ record.genericReport else [] := by
  unfold ParsedRecord.projectionDiagnostics
  by_cases names : record.IsDeclared
  · have declares : record.parse.declared = some _ := declared_eq_some names
    have unused : record.createdNames.flatMap record.parse.unusedGenerics = record.genericReport :=
      List.flatMap_congr fun target _ => unusedGenerics_report record target
    rw [if_pos names, declares, ← repetitions_report, ← unused]
    rfl
  · have nameless : record.parse.declared = none := declared_eq_none names
    rw [if_neg names, nameless]

theorem diagnostics_eq_report (record : Record) : record.diagnostics = record.report := by
  unfold Record.diagnostics Record.directiveDiagnostics Record.ownDiagnostics Record.report
  rw [nameLists_diagnostics, undeclaredDiagnostics_eq, overrideDirectives_diagnostics,
    indexedFields_diagnostics, projectionDiagnostics_eq]
  simp only [List.append_assoc]
  rfl

/-- Every record expands to what is to be reported for it, and to definitions if and only if that is
nothing. -/
theorem expand_reports (record : Record) :
    ∃ expansion, record.expand = .ok expansion ∧ expansion.diagnostics = record.report ∧
      (expansion.definitions = [] ↔ record.report ≠ []) := by
  refine ⟨_, expand_eq record, diagnostics_eq_report record, ?_⟩
  rw [diagnostics_eq_report]
  cases record.report <;> simp [ParsedRecord.allDefinitions]

example : ({ name := "R", kind := "enum", annotations := ["substruct(A, A)"] } : Record).report =
    [.unsupportedKind "enum" "R", .duplicateProjection "A" "R"] := by decide +kernel

end RecordProjection
