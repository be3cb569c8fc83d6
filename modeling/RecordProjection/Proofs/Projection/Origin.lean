import RecordProjection.Projection.Annotations
import RecordProjection.Proofs.Directive.Excerpt
import RecordProjection.Proofs.Directive.Parsing

/-! Where the annotations of an emitted record come from: they stood there before and are no
directives, an override adds them, or they are documentation that a membership item carries. None of
the three is a directive. -/

namespace RecordProjection
open Directive Text

theorem leadingPath_documentation (text : String) :
    leadingPath (documentation text) = some documentationPath := by
  have blank : isBlank 'd' = false := by decide
  have words : "doc = ".toList = ['d', 'o', 'c', ' ', '=', ' '] := by decide
  have start : isIdentStart 'd' = true := by decide
  have letters : isIdentChar 'o' = true ∧ isIdentChar 'c' = true ∧ isIdentChar ' ' = false := by
    decide
  simp only [leadingPath, documentation, documentationPath, String.reduceAppend, words,
    String.toList_ofList, List.cons_append, trimLeft, List.dropWhile_cons, blank]
  simp [leadingIdent, start, letters, pathTail]

theorem isDirective_documentation (text : String) : isDirective (documentation text) = false := by
  simp [isDirective, directiveKind?, leadingPath_documentation, documentationPath,
    DirectiveKind.path]

theorem isDirective_added {note : String} {added : Override}
    (read : Directive.override note = .ok added) : isDirective added.added = false := by
  obtain ⟨_, _, _, _, -, -, -, -, undirected⟩ := parts_of_override read
  exact undirected

inductive Documents (note text : String) : Prop
  | declared {entries : List NameEntry} {entry : NameEntry}
      (read : declaredNames note = .ok entries)
      (member : entry ∈ entries) (documented : entry.documentation = some text)
  | joined {entries : Membership} {entry : MembershipEntry} (read : membership note = .ok entries)
      (member : entry ∈ entries) (documented : entry.documentation = some text)

/-- The annotations that a list of annotations can give rise to. -/
inductive Originates (annotations : List String) : String → Prop
  | kept {note : String} (member : note ∈ annotations) (undirected : isDirective note = false) :
      Originates annotations note
  | added {note : String} {added : Override} (member : note ∈ annotations)
      (read : Directive.override note = .ok added) : Originates annotations added.added
  | documented {note text : String} (member : note ∈ annotations)
      (documents : Documents note text) :
      Originates annotations (documentation text)

theorem Originates.undirected {annotations : List String} {note : String}
    (origin : Originates annotations note) : isDirective note = false := by
  cases origin with
  | kept _ undirected => exact undirected
  | added _ read => exact isDirective_added read
  | documented => exact isDirective_documentation _

theorem mem_replaceDocumentation {replacement note : String} {annotations : List String}
    (member : note ∈ replaceDocumentation replacement annotations) :
    note = replacement ∨ note ∈ annotations := by
  unfold replaceDocumentation at member
  dsimp only at member
  split at member
  · rcases List.mem_append.1 member with before | after
    · exact .inr ((List.takeWhile_prefix _).subset before)
    · rcases List.mem_cons.1 after with rfl | later
      · exact .inl rfl
      · exact .inr (List.mem_of_mem_drop (List.mem_filter.1 later).1)
  · exact List.mem_cons.1 member

theorem mem_overrideDocumentation {text : Option String} {note : String}
    {annotations : List String} (member : note ∈ overrideDocumentation text annotations) :
    note ∈ annotations ∨ ∃ words, text = some words ∧ note = documentation words := by
  cases text with
  | none => exact .inl member
  | some words =>
    rcases mem_replaceDocumentation member with rfl | kept
    · exact .inr ⟨words, rfl, rfl⟩
    · exact .inl kept

theorem mem_applyOverrides {annotations : List String} {overrides : List Override}
    {target note : String} (member : note ∈ applyOverrides annotations overrides target) :
    note ∈ annotations ∨ ∃ override ∈ overrides, note = override.added := by
  rcases List.mem_append.1 member with kept | added
  · exact .inl kept
  · obtain ⟨override, matching, rfl⟩ := List.mem_map.1 added
    exact .inr ⟨override, (List.mem_filter.1 matching).1, rfl⟩

theorem documented_of_documentationFor {entries : Membership} {target text : String}
    (found : entries.documentationFor target = some text) :
    ∃ entry ∈ entries, entry.documentation = some text := by
  obtain ⟨entry, member, documented⟩ := List.exists_of_findSome?_eq_some found
  split at documented
  · exact ⟨entry, member, documented⟩
  · cases documented

theorem lookup_addDocumentation (known : List (String × String)) (entry : NameEntry)
    (target : String) :
    (Declared.addDocumentation known entry).lookup target =
      (known.lookup target).or (if entry.name = target then entry.documentation else none) := by
  unfold Declared.addDocumentation
  cases documents : entry.documentation with
  | none => simp
  | some text =>
    by_cases same : entry.name = target
    · subst same
      cases earlier : known.lookup entry.name <;>
        simp [earlier, List.lookup_append]
    · have other : (target == entry.name) = false := by simpa using Ne.symm same
      cases earlier : known.lookup entry.name <;>
        simp [same, List.lookup_append, List.lookup_cons, other]

theorem lookup_documentation (entries : List NameEntry) (target : String)
    (known : List (String × String)) :
    (entries.foldl Declared.addDocumentation known).lookup target =
      (known.lookup target).or (entries.findSome? fun entry =>
        if entry.name = target then entry.documentation else none) := by
  induction entries generalizing known with
  | nil => simp
  | cons first rest ih =>
    rw [List.foldl_cons, ih, lookup_addDocumentation, Option.or_assoc, List.findSome?_cons]
    cases (if first.name = target then first.documentation else none) <;> rfl

theorem documented_of_lookup {entries : List NameEntry} {name text : String}
    (found : (entries.foldl Declared.addDocumentation []).lookup name = some text) :
    ∃ entry ∈ entries, entry.documentation = some text := by
  rw [lookup_documentation, List.lookup_nil, Option.none_or] at found
  obtain ⟨entry, member, documented⟩ := List.exists_of_findSome?_eq_some found
  split at documented
  · exact ⟨entry, member, documented⟩
  · cases documented

theorem mem_passthrough {annotations : List String} {note : String}
    (member : note ∈ passthrough annotations) : Originates annotations note := by
  obtain ⟨stands, undirected⟩ := List.mem_filter.1 member
  exact .kept stands (by simpa using undirected)

theorem originates_added {annotations : List String} {added : Override}
    (member : added ∈ annotations.filterMap overrideOf?) : Originates annotations added.added := by
  obtain ⟨note, stands, found⟩ := List.mem_filterMap.1 member
  exact .added stands (override_of_overrideOf? found)

theorem originates_applied {annotations : List String} {target note : String}
    (member : note ∈ applyOverrides (passthrough annotations)
      (annotations.filterMap overrideOf?) target) : Originates annotations note := by
  rcases mem_applyOverrides member with kept | ⟨override, listed, rfl⟩
  · exact mem_passthrough kept
  · exact originates_added listed

theorem originates_of_mem_field {field : Field} {record target note : String} {index : Int}
    (member : note ∈ (field.parse record index).annotationsIn target) :
    Originates field.annotations note := by
  unfold ParsedField.annotationsIn at member
  rw [parse_membership, parse_field_overrides] at member
  rcases mem_overrideDocumentation member with applied | ⟨words, found, rfl⟩
  · exact originates_applied applied
  · obtain ⟨entry, listed, documented⟩ := documented_of_documentationFor found
    obtain ⟨source, stands, inside⟩ := List.mem_flatMap.1 listed
    obtain ⟨entries, read, among⟩ := mem_listedEntries inside
    exact .documented stands (.joined read among documented)

theorem originates_of_mem_record {record : Record} {target note : String}
    (member : note ∈ record.parse.annotationsIn target) :
    Originates record.annotations note := by
  unfold ParsedRecord.annotationsIn at member
  rw [parse_overrides] at member
  rcases mem_overrideDocumentation member with applied | ⟨words, found, rfl⟩
  · exact originates_applied applied
  · obtain ⟨declared, declares, looked⟩ := Option.bind_eq_some_iff.1 found
    change record.declared = some declared at declares
    by_cases named : record.IsDeclared
    · rw [declared_eq_some named, Option.some.injEq] at declares
      subst declares
      obtain ⟨entry, listed, documented⟩ := documented_of_lookup looked
      obtain ⟨source, stands, inside⟩ := List.mem_flatMap.1 listed
      obtain ⟨entries, read, among⟩ := mem_listedNames inside
      exact .documented stands (.declared read among documented)
    · rw [declared_eq_none named] at declares
      cases declares

end RecordProjection
