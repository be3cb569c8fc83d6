import Mathlib.Tactic.ByContra
import RecordProjection.Proofs.Directive.Listing

/-! What parsing takes out of the annotations of a record and of its fields: the names to create,
the overrides and the memberships, each from the well-formed directives in order, and the fields in
the order of the record. -/

namespace RecordProjection
open Directive

def listedNames (note : String) : List NameEntry :=
  if directiveKind? note = some .membership then (declaredNames note).toOption.getD [] else []

def overrideOf? (note : String) : Option Override :=
  if directiveKind? note = some .override then (override note).toOption else none

def listedEntries (note : String) : Membership :=
  if directiveKind? note = some .membership then (membership note).toOption.getD [] else []

theorem mem_listedNames {note : String} {entry : NameEntry} (member : entry ∈ listedNames note) :
    ∃ entries, declaredNames note = .ok entries ∧ entry ∈ entries := by
  unfold listedNames at member
  split at member
  · cases read : declaredNames note with
    | error cause => simp [read, Except.toOption] at member
    | ok entries => exact ⟨entries, rfl, by simpa [read, Except.toOption] using member⟩
  · cases member

theorem mem_listedEntries {note : String} {entry : MembershipEntry}
    (member : entry ∈ listedEntries note) :
    ∃ entries, membership note = .ok entries ∧ entry ∈ entries := by
  unfold listedEntries at member
  split at member
  · cases read : membership note with
    | error cause => simp [read, Except.toOption] at member
    | ok entries => exact ⟨entries, rfl, by simpa [read, Except.toOption] using member⟩
  · cases member

theorem override_of_overrideOf? {note : String} {added : Override}
    (found : overrideOf? note = some added) : override note = .ok added := by
  unfold overrideOf? at found
  split at found
  · cases read : override note with
    | error cause => simp [read, Except.toOption] at found
    | ok value => simpa [read, Except.toOption] using found
  · cases found

theorem values_nameLists (record : Record) :
    (Located.values record.nameLists).flatten = record.annotations.flatMap listedNames := by
  rw [Record.nameLists, values_directivesOf]
  induction record.annotations with
  | nil => rfl
  | cons note rest ih =>
    rcases kind : directiveKind? note with _ | _ | _ <;>
      rcases reading : declaredNames note with _ | entries <;>
      simpa [listedNames, readingOf, kind, reading, Except.toOption] using ih

theorem parse_overrides (record : Record) :
    record.parse.overrides = record.annotations.filterMap overrideOf? := by
  change Located.values record.overrideDirectives = _
  rw [Record.overrideDirectives, values_directivesOf]
  induction record.annotations with
  | nil => rfl
  | cons note rest ih =>
    rcases kind : directiveKind? note with _ | _ | _ <;>
      rcases reading : override note with _ | added <;>
      simpa [overrideOf?, readingOf, kind, reading, Except.toOption] using ih

theorem nameLists_eq_nil_iff (record : Record) :
    record.nameLists = [] ↔
      ∀ note ∈ record.annotations, directiveKind? note ≠ some .membership := by
  rw [Record.nameLists, directivesOf_eq_nil_iff]
  refine forall₂_congr fun note _ => ?_
  rcases kind : directiveKind? note with _ | _ | _ <;> simp [readingOf, kind]

theorem nameLists_isMalformed_iff (record : Record) :
    record.nameLists.any Located.isMalformed = true ↔
      ∃ note ∈ record.annotations, directiveKind? note = some .membership ∧
        (declaredNames note).isOk = false := by
  rw [Record.nameLists, any_isMalformed_directivesOf, List.any_eq_true]
  refine exists_congr fun note => and_congr_right fun _ => ?_
  rcases kind : directiveKind? note with _ | _ | _ <;> simp [readingOf, kind]

def Record.IsDeclared (record : Record) : Prop :=
  (∃ note ∈ record.annotations, directiveKind? note = some .membership) ∧
    ∀ note ∈ record.annotations, directiveKind? note = some .membership →
      (declaredNames note).isOk

theorem declared_eq_some {record : Record} (names : record.IsDeclared) :
    record.declared =
      some (.ofEntries record.name (record.annotations.flatMap listedNames)) := by
  obtain ⟨⟨note, member, kind⟩, sound⟩ := names
  have present : record.nameLists.isEmpty = false := by
    rw [List.isEmpty_eq_false_iff, ne_eq, nameLists_eq_nil_iff]
    exact fun missing => missing note member kind
  have wellFormed : record.nameLists.any Located.isMalformed = false := by
    rw [Bool.eq_false_iff, ne_eq, nameLists_isMalformed_iff]
    rintro ⟨other, stands, list, broken⟩
    simp [sound other stands list] at broken
  simp [Record.declared, present, wellFormed, values_nameLists]

theorem declared_eq_none {record : Record} (nameless : ¬ record.IsDeclared) :
    record.declared = none := by
  have unusable : record.nameLists.isEmpty || record.nameLists.any Located.isMalformed := by
    by_contra usable
    simp only [Bool.or_eq_true, not_or, List.isEmpty_iff, nameLists_eq_nil_iff,
      nameLists_isMalformed_iff] at usable
    obtain ⟨present, wellFormed⟩ := usable
    refine nameless ⟨by simpa using present, fun note member kind => ?_⟩
    by_contra broken
    exact wellFormed ⟨note, member, kind, by simpa using broken⟩
  simp [Record.declared, unusable]

theorem parse_membership (field : Field) (record : String) (index : Int) :
    (field.parse record index).membership = field.annotations.flatMap listedEntries := by
  simp only [Field.parse, Field.directives, values_directivesOf]
  induction field.annotations with
  | nil => rfl
  | cons note rest ih =>
    rcases kind : directiveKind? note with _ | _ | _ <;>
      rcases joined : membership note with _ | entries <;>
      rcases added : override note with _ | override <;>
      simpa [listedEntries, readingOf, kind, joined, added, Functor.map, Except.map,
        Except.toOption] using ih

theorem parse_field_overrides (field : Field) (record : String) (index : Int) :
    (field.parse record index).overrides = field.annotations.filterMap overrideOf? := by
  simp only [Field.parse, Field.directives, values_directivesOf]
  induction field.annotations with
  | nil => rfl
  | cons note rest ih =>
    rcases kind : directiveKind? note with _ | _ | _ <;>
      rcases joined : membership note with _ | entries <;>
      rcases added : override note with _ | override <;>
      simpa [overrideOf?, readingOf, kind, joined, added, Functor.map, Except.map,
        Except.toOption] using ih

@[simp] theorem parse_field (field : Field) (record : String) (index : Int) :
    (field.parse record index).field = field := rfl

@[simp] theorem parse_index (field : Field) (record : String) (index : Int) :
    (field.parse record index).index = index := rfl

theorem parse_fields (record : Record) :
    record.parse.fields =
      record.fields.zipIdx.map fun entry => entry.1.parse record.name (Int.ofNat entry.2) := by
  simp [Record.parse, Record.indexedFields]

end RecordProjection
