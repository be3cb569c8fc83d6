import Mathlib.Data.List.Forall2
import RecordProjection.Directive.Collecting
import RecordProjection.Proofs.Projection.Locality

/-! Reading in the light of declared names. Reading the annotations of a field or a record one after
the other comes to what parsing takes out of them all, and adds to the diagnostics what is reported
for each. The declared names decide about unknown names alone: whatever they are, the same
directives are read and the same ones are reported as malformed. -/

namespace RecordProjection
open Directive

def readFieldDirective : DirectiveKind → String → Option (Except Malformation FieldDirective)
  | .membership, note => some (FieldDirective.membership <$> membership note)
  | .override, note => some (FieldDirective.override <$> override note)

def readListDirective : DirectiveKind → String → Option (Except Malformation (List NameEntry))
  | .membership, note => some (declaredNames note)
  | .override, _ => none

def readOverrideDirective : DirectiveKind → String → Option (Except Malformation Override)
  | .membership, _ => none
  | .override, note => some (override note)

theorem checkTargets_eq (declared : Option Declared) (location : String) (names : List String)
    (diagnostics : List Diagnostic) :
    checkTargets declared location names diagnostics =
      (names.filter fun name => declared.all fun declared => declared.isKnown name,
        diagnostics ++ unknownTargets declared location names) := by
  cases declared with
  | none => simp [checkTargets, unknownTargets]
  | some declared =>
    have check : ∀ known : List String, names.foldl (fun checked name =>
        if declared.isKnown name then (checked.1 ++ [name], checked.2)
        else (checked.1, checked.2 ++ [.unknownTarget name location])) (known, diagnostics) =
          (known ++ names.filter declared.isKnown,
            diagnostics ++ unknownTargets (some declared) location names) := by
      intro known
      induction names generalizing known diagnostics with
      | nil => simp [unknownTargets]
      | cons name rest ih =>
        rw [List.foldl_cons]
        dsimp only
        by_cases found : declared.isKnown name = true
        · rw [if_pos found, ih]
          simp [unknownTargets, found]
        · rw [if_neg found, ih]
          simp [unknownTargets, found]
    exact check []

theorem directives_eq (field : Field) (record : String) (index : Int) :
    field.directives record index =
      directivesOf (fieldLocation record index field) field.annotations readFieldDirective := by
  unfold Field.directives
  congr 1
  funext kind note
  cases kind <;> rfl

theorem nameLists_eq (record : Record) :
    record.nameLists = directivesOf record.name record.annotations readListDirective := by
  unfold Record.nameLists
  congr 1
  funext kind note
  cases kind <;> rfl

theorem overrideDirectives_eq (record : Record) :
    record.overrideDirectives =
      directivesOf record.name record.annotations readOverrideDirective := by
  unfold Record.overrideDirectives
  congr 1
  funext kind note
  cases kind <;> rfl

section Reporting
variable {α : Type} (owner : String) (declared : Option Declared) (names : α → List String)
  (read : DirectiveKind → String → Option (Except Malformation α))

def reportAt (numbered : String × Nat) : List Diagnostic :=
  (readingOf read numbered.1).elim [] fun reading =>
    Located.diagnostics declared names ⟨annotationLocation owner numbered.2, reading⟩

theorem flatMap_diagnostics (annotations : List String) :
    (directivesOf owner annotations read).flatMap (Located.diagnostics declared names) =
      annotations.zipIdx.flatMap (reportAt owner declared names read) :=
  flatMap_directivesOf owner annotations read _

end Reporting

theorem passthrough_append (first second : List String) :
    passthrough (first ++ second) = passthrough first ++ passthrough second :=
  List.filter_append _ _

section Steps
variable {owner : String} {declared : Option Declared} {note : String} {position : Nat}

theorem OverrideReading.step_eq (reading : OverrideReading) :
    OverrideReading.step owner declared reading (note, position) = {
      diagnostics := reading.diagnostics ++
        reportAt owner declared Override.names readOverrideDirective (note, position)
      overrides := reading.overrides ++ [note].filterMap overrideOf?
      passthrough := reading.passthrough ++ RecordProjection.passthrough [note] } := by
  rcases kind : directiveKind? note with _ | _ | _
  · simp [OverrideReading.step, kind, OverrideReading.pass, reportAt, readingOf, overrideOf?,
      RecordProjection.passthrough, isDirective]
  · simp [OverrideReading.step, kind, reportAt, readingOf, readOverrideDirective, overrideOf?,
      RecordProjection.passthrough, isDirective]
  · rcases read : override note with cause | added <;>
      simp [OverrideReading.step, kind, OverrideReading.readOverride, OverrideReading.report,
        read, checkTargets_eq, reportAt, readingOf, readOverrideDirective, Located.diagnostics,
        overrideOf?, Except.toOption, RecordProjection.passthrough, isDirective]

theorem FieldReading.step_eq (reading : FieldReading) :
    FieldReading.step owner declared reading (note, position) = {
      diagnostics := reading.diagnostics ++
        reportAt owner declared FieldDirective.names readFieldDirective (note, position)
      membership := reading.membership ++ listedEntries note
      overrides := reading.overrides ++ [note].filterMap overrideOf?
      passthrough := reading.passthrough ++ RecordProjection.passthrough [note] } := by
  rcases kind : directiveKind? note with _ | _ | _
  · simp [FieldReading.step, kind, OverrideReading.pass, reportAt, readingOf, overrideOf?,
      listedEntries, RecordProjection.passthrough, isDirective]
  · rcases read : Directive.membership note with cause | entries <;>
      simp [FieldReading.step, kind, FieldReading.readMembership, OverrideReading.report, read,
        checkTargets_eq, reportAt, readingOf, readFieldDirective, Located.diagnostics,
        FieldDirective.names, Functor.map, Except.map, overrideOf?, listedEntries,
        Except.toOption, RecordProjection.passthrough, isDirective]
  · rcases read : override note with cause | added <;>
      simp [FieldReading.step, kind, OverrideReading.readOverride, OverrideReading.report, read,
        checkTargets_eq, reportAt, readingOf, readFieldDirective, Located.diagnostics,
        FieldDirective.names, Functor.map, Except.map, overrideOf?, listedEntries,
        Except.toOption, RecordProjection.passthrough, isDirective]

theorem ListReading.step_eq (reading : ListReading) :
    ListReading.step owner reading (note, position) = {
      diagnostics := reading.diagnostics ++
        reportAt owner none (fun _ => []) readListDirective (note, position)
      entries := reading.entries ++ (listedNames note).map NameEntry.name
      documentation := (listedNames note).foldl Declared.addDocumentation reading.documentation
      found := reading.found || decide (directiveKind? note = some .membership)
      malformed := reading.malformed ||
        (decide (directiveKind? note = some .membership) && !(declaredNames note).isOk) } := by
  rcases kind : directiveKind? note with _ | _ | _
  · simp [ListReading.step, kind, reportAt, readingOf, listedNames]
  · rcases read : declaredNames note with cause | entries <;>
      simp [ListReading.step, kind, read, reportAt, readingOf, readListDirective,
        Located.diagnostics, unknownTargets, listedNames, Except.toOption, Except.isOk,
        Except.toBool]
  · simp [ListReading.step, kind, reportAt, readingOf, readListDirective, listedNames]

theorem OverrideReading.run (annotations : List String) (start : Nat)
    (reading : OverrideReading) :
    (annotations.zipIdx start).foldl (OverrideReading.step owner declared) reading = {
      diagnostics := reading.diagnostics ++ (annotations.zipIdx start).flatMap
        (reportAt owner declared Override.names readOverrideDirective)
      overrides := reading.overrides ++ annotations.filterMap overrideOf?
      passthrough := reading.passthrough ++ RecordProjection.passthrough annotations } := by
  induction annotations generalizing start reading with
  | nil => simp [RecordProjection.passthrough]
  | cons note rest ih =>
    rw [List.zipIdx_cons, List.foldl_cons, step_eq, ih, List.flatMap_cons]
    simp only [List.append_assoc, ← List.filterMap_append, ← passthrough_append,
      List.singleton_append]

theorem FieldReading.run (annotations : List String) (start : Nat) (reading : FieldReading) :
    (annotations.zipIdx start).foldl (FieldReading.step owner declared) reading = {
      diagnostics := reading.diagnostics ++ (annotations.zipIdx start).flatMap
        (reportAt owner declared FieldDirective.names readFieldDirective)
      membership := reading.membership ++ annotations.flatMap listedEntries
      overrides := reading.overrides ++ annotations.filterMap overrideOf?
      passthrough := reading.passthrough ++ RecordProjection.passthrough annotations } := by
  induction annotations generalizing start reading with
  | nil => simp [RecordProjection.passthrough]
  | cons note rest ih =>
    rw [List.zipIdx_cons, List.foldl_cons, step_eq, ih, List.flatMap_cons, List.flatMap_cons]
    simp only [List.append_assoc, ← List.filterMap_append, ← passthrough_append,
      List.singleton_append]

theorem ListReading.run (annotations : List String) (start : Nat) (reading : ListReading) :
    (annotations.zipIdx start).foldl (ListReading.step owner) reading = {
      diagnostics := reading.diagnostics ++ (annotations.zipIdx start).flatMap
        (reportAt owner none (fun _ => []) readListDirective)
      entries := reading.entries ++ (annotations.flatMap listedNames).map NameEntry.name
      documentation :=
        (annotations.flatMap listedNames).foldl Declared.addDocumentation reading.documentation
      found := reading.found || annotations.any fun note =>
        decide (directiveKind? note = some .membership)
      malformed := reading.malformed || annotations.any fun note =>
        decide (directiveKind? note = some .membership) && !(declaredNames note).isOk } := by
  induction annotations generalizing start reading with
  | nil => simp
  | cons note rest ih =>
    rw [List.zipIdx_cons, List.foldl_cons, step_eq, ih, List.flatMap_cons, List.flatMap_cons,
      List.any_cons, List.any_cons]
    simp only [List.append_assoc, List.map_append, List.foldl_append, Bool.or_assoc]

end Steps

/-- Reading a field annotation by annotation is parsing it, and reports what is wrong with it. -/
theorem Field.collect_eq (field : Field) (record : String) (index : Int)
    (declared : Option Declared) (diagnostics : List Diagnostic) :
    field.collect record index declared diagnostics =
      (field.parse record index, diagnostics ++ field.diagnostics record index declared) := by
  have parsed : field.parse record index = {
      index
      field
      membership := field.annotations.flatMap listedEntries
      overrides := field.annotations.filterMap overrideOf?
      passthrough := passthrough field.annotations } := by
    rw [← parse_membership field record index, ← parse_field_overrides field record index]
    rfl
  rw [parsed, Field.diagnostics, directives_eq, flatMap_diagnostics]
  simp only [Field.collect, FieldReading.run, List.nil_append]

theorem Record.collectLists_eq (record : Record) (diagnostics : List Diagnostic) :
    (record.collectLists diagnostics).declared record.name = record.declared ∧
      (record.collectLists diagnostics).finish record.name = diagnostics ++
        (record.nameLists.flatMap (Located.diagnostics none fun _ => []) ++
          record.undeclaredDiagnostics) := by
  have found : (record.annotations.any fun note =>
      decide (directiveKind? note = some .membership)) = !record.nameLists.isEmpty := by
    rw [Bool.eq_iff_iff, Bool.not_eq_true', List.isEmpty_eq_false_iff, ne_eq,
      nameLists_eq_nil_iff]
    simp
  have malformed : (record.annotations.any fun note =>
      decide (directiveKind? note = some .membership) && !(declaredNames note).isOk) =
        record.nameLists.any Located.isMalformed := by
    rw [Bool.eq_iff_iff, nameLists_isMalformed_iff]
    simp
  have run : record.collectLists diagnostics = _ := ListReading.run record.annotations 0 _
  rw [run, ListReading.declared, ListReading.finish, Record.declared,
    Record.undeclaredDiagnostics, values_nameLists, found, malformed, nameLists_eq,
    flatMap_diagnostics]
  generalize (directivesOf record.name record.annotations readListDirective).isEmpty = absent
  generalize (directivesOf record.name record.annotations readListDirective).any
    Located.isMalformed = broken
  refine ⟨?_, ?_⟩
  · cases absent <;> cases broken <;> rfl
  · cases absent <;> simp

theorem Record.collect_eq (record : Record) (diagnostics : List Diagnostic) :
    record.collect diagnostics = (record.declared, {
      diagnostics := diagnostics ++ record.ownDiagnostics
      overrides := record.parse.overrides
      passthrough := record.parse.passthrough }) := by
  obtain ⟨declared, reported⟩ := record.collectLists_eq diagnostics
  rw [Record.ownDiagnostics, overrideDirectives_eq, flatMap_diagnostics, ← List.append_assoc,
    ← reported, parse_overrides]
  simp only [Record.collect, Record.collectOverrides, OverrideReading.run, declared,
    List.nil_append]
  rfl

structure IsChecked (declared : Option Declared) (added : List Diagnostic) : Prop where
  unknown : ∀ diagnostic ∈ added, diagnostic.code ≠ .malformed →
    ∃ target location, diagnostic = .unknownTarget target location
  unchecked : declared = none → ∀ diagnostic ∈ added, diagnostic.code = .malformed

/-- The reports of two readings of the same directives, each in the light of its own names. -/
structure ReportAlike (one other : Option Declared) (added reported : List Diagnostic) : Prop where
  malformed : (added.filter fun diagnostic => diagnostic.code = .malformed) =
    reported.filter fun diagnostic => diagnostic.code = .malformed
  checked : IsChecked one added
  alsoChecked : IsChecked other reported

section Independence
variable {one other declared : Option Declared}

theorem IsChecked.append {added more : List Diagnostic} (first : IsChecked declared added)
    (second : IsChecked declared more) : IsChecked declared (added ++ more) :=
  ⟨List.forall_mem_append.2 ⟨first.unknown, second.unknown⟩,
    fun undeclared => List.forall_mem_append.2
      ⟨first.unchecked undeclared, second.unchecked undeclared⟩⟩

theorem ReportAlike.append {added reported more further : List Diagnostic}
    (first : ReportAlike one other added reported) (second : ReportAlike one other more further) :
    ReportAlike one other (added ++ more) (reported ++ further) :=
  ⟨by rw [List.filter_append, List.filter_append, first.malformed, second.malformed],
    first.checked.append second.checked, first.alsoChecked.append second.alsoChecked⟩

theorem ReportAlike.nil : ReportAlike one other [] [] :=
  ⟨rfl, ⟨by simp, by simp⟩, ⟨by simp, by simp⟩⟩

theorem mem_unknownTargets {location : String} {names : List String} {diagnostic : Diagnostic}
    (member : diagnostic ∈ unknownTargets declared location names) :
    declared ≠ none ∧ ∃ target, diagnostic = .unknownTarget target location := by
  cases declared with
  | none => cases member
  | some declared =>
    obtain ⟨target, -, rfl⟩ := List.mem_map.1 member
    exact ⟨Option.some_ne_none declared, target, rfl⟩

theorem isChecked_unknownTargets (location : String) (names : List String) :
    IsChecked declared (unknownTargets declared location names) := by
  refine ⟨fun diagnostic member _ => ?_, fun undeclared diagnostic member => ?_⟩
  · obtain ⟨-, target, same⟩ := mem_unknownTargets member
    exact ⟨target, location, same⟩
  · exact absurd undeclared (mem_unknownTargets member).1

theorem wellFormed_unknownTargets (location : String) (names : List String) :
    ((unknownTargets declared location names).filter fun diagnostic =>
      diagnostic.code = .malformed) = [] := by
  refine List.filter_eq_nil_iff.2 fun diagnostic member => ?_
  obtain ⟨-, target, rfl⟩ := mem_unknownTargets member
  simp [Diagnostic.code]

theorem reportAlike_diagnostics {α : Type} (names : α → List String) (directive : Located α) :
    ReportAlike one other (Located.diagnostics one names directive)
      (Located.diagnostics other names directive) := by
  obtain ⟨location, cause | value⟩ := directive
  · have malformed : ∀ declared, IsChecked declared [.malformed cause location] := fun declared =>
      ⟨by simp [Diagnostic.code], by simp [Diagnostic.code]⟩
    exact ⟨rfl, malformed one, malformed other⟩
  · refine ⟨?_, isChecked_unknownTargets location _, isChecked_unknownTargets location _⟩
    exact (wellFormed_unknownTargets location _).trans (wellFormed_unknownTargets location _).symm

theorem reportAlike_reportAt {α : Type} (owner : String) (names : α → List String)
    (read : DirectiveKind → String → Option (Except Malformation α)) (numbered : String × Nat) :
    ReportAlike one other (reportAt owner one names read numbered)
      (reportAt owner other names read numbered) := by
  unfold reportAt
  cases readingOf read numbered.1 with
  | none => exact .nil
  | some reading => exact reportAlike_diagnostics names _

theorem ReportAlike.run {report counterpart : String × Nat → List Diagnostic}
    {annotations others : List String}
    (same : List.Forall₂ (fun note another => ∀ position,
      ReportAlike one other (report (note, position)) (counterpart (another, position)))
      annotations others) (start : Nat) :
    ReportAlike one other ((annotations.zipIdx start).flatMap report)
      ((others.zipIdx start).flatMap counterpart) := by
  induction same generalizing start with
  | nil => exact .nil
  | cons first _ ih =>
    rw [List.zipIdx_cons, List.zipIdx_cons, List.flatMap_cons, List.flatMap_cons]
    exact (first start).append (ih (start + 1))

end Independence

def SameButLists (annotations others : List String) : Prop :=
  List.Forall₂ (fun note another => note = another ∨
    directiveKind? note = some .membership ∧ directiveKind? another = some .membership)
    annotations others

theorem reportAt_list {owner : String} {declared : Option Declared} {note : String} {position : Nat}
    (list : directiveKind? note = some .membership) :
    reportAt owner declared Override.names readOverrideDirective (note, position) = [] := by
  simp [reportAt, readingOf, list, readOverrideDirective]

/-- Declared names decide about unknown names alone. A field is read as the same whatever they are,
and so is a record apart from its lists whatever these contain; the report goes behind what was
reported before, tells of the same malformed directives, and else of unknown names only. -/
theorem reading_independent_of_context (name : String) (index : Int) (field : Field)
    (one other : Option Declared) (before earlier : List Diagnostic) :
    ((field.collect name index one before).1 = (field.collect name index other earlier).1 ∧
      ∃ added reported, (field.collect name index one before).2 = before ++ added ∧
        (field.collect name index other earlier).2 = earlier ++ reported ∧
        ReportAlike one other added reported) ∧
    (∀ first second : Record,
      first.withoutLists.annotations = second.withoutLists.annotations →
      (first.collect before).2.overrides = (second.collect earlier).2.overrides ∧
        (first.collect before).2.passthrough = (second.collect earlier).2.passthrough) ∧
    ∀ first second : Record, first.name = second.name →
      SameButLists first.annotations second.annotations →
      ∃ added reported, (first.collectOverrides one before).diagnostics = before ++ added ∧
        (second.collectOverrides other earlier).diagnostics = earlier ++ reported ∧
        ReportAlike one other added reported := by
  refine ⟨⟨?_, ?_⟩, fun first second same => ?_, fun first second named same => ?_⟩
  · rw [Field.collect_eq, Field.collect_eq]
  · rw [Field.collect_eq, Field.collect_eq]
    refine ⟨_, _, rfl, rfl, ?_⟩
    rw [Field.diagnostics, Field.diagnostics, directives_eq, flatMap_diagnostics,
      flatMap_diagnostics]
    exact .run (List.forall₂_same.2 fun note _ position => reportAlike_reportAt _ _ _ _) 0
  · rw [Record.collect_eq, Record.collect_eq, ← overrides_withoutLists first,
      ← overrides_withoutLists second, parse_overrides, parse_overrides, same]
    refine ⟨rfl, ?_⟩
    change passthrough first.annotations = passthrough second.annotations
    rw [← passthrough_withoutLists first, same, passthrough_withoutLists]
  · have run : ∀ record declared diagnostics,
        (Record.collectOverrides record declared diagnostics).diagnostics = diagnostics ++
          record.annotations.zipIdx.flatMap
            (reportAt record.name declared Override.names readOverrideDirective) :=
      fun record declared diagnostics => by rw [Record.collectOverrides, OverrideReading.run]
    refine ⟨_, _, run first one before, run second other earlier, .run (same.imp ?_) 0⟩
    rintro note another (rfl | ⟨list, also⟩) position
    · rw [named]
      exact reportAlike_reportAt _ _ _ _
    · rw [reportAt_list list, reportAt_list also]
      exact .nil

theorem reading_independent_of_context_lists :
    let field : Field := ⟨some "key", "", "u8", ["substruct(A, B)", "substruct(", "a"]⟩
    let declared : Declared := ⟨"R", ["A"], []⟩
    let relisted := { pairedRecord with annotations := ["substruct(B", "a"] }
    (field.collect "R" 0 none []).2 =
        [.malformed (.unterminatedList "substruct(") (annotationLocation "R.key" 1)] ∧
      (field.collect "R" 0 declared []).2 =
        [.unknownTarget "B" (annotationLocation "R.key" 0),
          .malformed (.unterminatedList "substruct(") (annotationLocation "R.key" 1)] ∧
      (field.collect "R" 0 none []).1 = (field.collect "R" 0 declared []).1 ∧
      pairedRecord.withoutLists.annotations = movedRecord.withoutLists.annotations ∧
      (pairedRecord.collect []).2.overrides = (movedRecord.collect []).2.overrides ∧
      SameButLists pairedRecord.annotations relisted.annotations ∧
      ∃ added reported,
        (pairedRecord.collectOverrides none []).diagnostics = [] ++ added ∧
          (relisted.collectOverrides declared []).diagnostics = [] ++ reported ∧
          ReportAlike none declared added reported := by
  intro field declared relisted
  obtain ⟨⟨read, -⟩, records, lists⟩ :=
    reading_independent_of_context "R" 0 field none (some declared) [] []
  have alike : pairedRecord.withoutLists.annotations = movedRecord.withoutLists.annotations := by
    decide +kernel
  have same : SameButLists pairedRecord.annotations relisted.annotations :=
    .cons (.inr ⟨by decide +kernel, by decide +kernel⟩) (.cons (.inl rfl) .nil)
  exact ⟨by decide +kernel, by decide +kernel, read, alike,
    (records pairedRecord movedRecord alike).1, same, lists pairedRecord relisted rfl same⟩

end RecordProjection
