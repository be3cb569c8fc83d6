import RecordProjection.Proofs.Command.Request
import RecordProjection.Proofs.Registry.Acceptance
import RecordProjection.Proofs.Selector.Grammar

/-! The names of records. A command line and a registry accept the names by which directives speak
of a record, and the same names with a line feed behind them; a directive takes such a name for the
one without the line feed. -/

namespace RecordProjection
open Command Directive Markup Text

section Tokens
variable {name : String}

theorem tokenize_identifier (identifier : isIdentifier name.toList = true) :
    tokenize name = [⟨.ident, name, 0, name.length⟩] := by
  rw [tokenize, scan_lexeme (isLexeme_of_isIdentifier identifier), String.ofList_toList,
    Nat.zero_add, String.length_toList]

theorem tokenize_lineFeed (text : String) : tokenize (text ++ "\n") = tokenize text := by
  have fresh : StartsFresh ['\n'] := by
    intro c first
    cases first
    decide
  have unquoted : doubleQuote ∉ ['\n'] := by decide
  have behind : ∀ start, scan start ['\n'] = [] := by
    intro start
    rw [scan_blank (by decide), scan_nil]
  have lineFeed : "\n".toList = ['\n'] := rfl
  rw [tokenize, String.toList_append, lineFeed, scan_append (fun _ _ _ => fresh), behind,
    List.append_nil, tokenize]
  exact fun quoted => absurd quoted unquoted

theorem isIdentifier_of_mem_tokenize {text : String} {token : Token}
    (member : token ∈ tokenize text) (named : isName token.text = true) :
    isIdentifier token.text.toList = true := by
  have solid := (isLexical_of_mem_tokenize member).lexeme.endsSolid
  rwa [Selector.isName_eq_isIdentifier solid] at named

theorem parse_eq_name_iff :
    Selector.parse (tokenize name) = .ok (.name name) ↔ isIdentifier name.toList = true := by
  constructor
  · intro read
    have denotes := Selector.denotes_of_parse (fun _ => isLexical_of_mem_tokenize) read
    generalize tokenize name = tokens at denotes
    cases denotes with
    | name ident identifier => exact identifier
    | @operation operator head opener closer tokens operands _ ident word opens closes listed
        denoted makes =>
      generalize operands.map Prod.snd = results at makes
      cases makes
  · intro identifier
    rw [tokenize_identifier identifier]
    exact (Selector.Denotes.name rfl identifier).parse

theorem isIdentifier_of_mem_nameList {text : String} {entries : List NameEntry}
    (read : nameList (tokenize text) = .ok entries) :
    ∀ entry ∈ entries, isIdentifier entry.name.toList = true := by
  intro entry member
  obtain ⟨segment, listed, read⟩ := mem_of_mapM_ok read entry member
  obtain ⟨named, token, same, found⟩ := nameEntry_eq_ok read
  have inside := (splitDocumentation_suffix found).subset List.mem_cons_self
  have among := (contiguous_of_mem_splitTopLevel listed).subset inside
  rw [← same] at named ⊢
  exact isIdentifier_of_mem_tokenize among named

theorem nameList_eq_name_iff :
    nameList (tokenize name) = .ok [⟨name, none⟩] ↔ isIdentifier name.toList = true := by
  constructor
  · exact fun read => isIdentifier_of_mem_nameList read _ List.mem_cons_self
  · intro identifier
    have named := (isName_iff name).2 (.inl identifier)
    have segments : splitTopLevel [⟨.ident, name, 0, name.length⟩] =
        [[⟨.ident, name, 0, name.length⟩]] := rfl
    have read : nameEntry [⟨.ident, name, 0, name.length⟩] = .ok ⟨name, none⟩ := if_pos named
    rw [tokenize_identifier identifier, nameList, segments, List.mapM_cons, read]
    rfl

end Tokens

section Registry
variable {record key other : String} {element : Element}

theorem fieldOf_ne_invalidName : Field.ofElement record element ≠ .error (.invalidName other) := by
  unfold Field.ofElement
  dsimp only
  split <;> simp

theorem indexOf_ne_invalidName : indexOf record key element ≠ .error (.invalidName other) := by
  unfold indexOf
  dsimp only
  split
  · split <;> simp
  · simp

theorem planOf_ne_invalidName :
    ConversionPlan.ofElement record element ≠ .error (.invalidName other) := by
  intro failed
  unfold ConversionPlan.ofElement at failed
  dsimp only at failed
  split at failed
  · cases failed
  · rcases bind_eq_error failed with failed | ⟨kept, -, failed⟩
    · obtain ⟨child, -, failed⟩ := mem_of_mapM_error failed
      rcases bind_eq_error failed with failed | ⟨source, -, failed⟩
      · exact indexOf_ne_invalidName failed
      · rcases bind_eq_error failed with failed | ⟨index, -, failed⟩
        · exact indexOf_ne_invalidName failed
        · cases failed
    · rcases bind_eq_error failed with failed | ⟨arguments, -, failed⟩
      · obtain ⟨child, -, failed⟩ := mem_of_mapM_error failed
        rcases bind_eq_error failed with failed | ⟨source, -, failed⟩
        · exact indexOf_ne_invalidName failed
        · cases failed
      · cases failed

theorem recordOf_eq_invalidName_iff :
    Record.ofElement element = .error (.invalidName other) ↔
      isName other = false ∧ other = (element.attribute? "name").getD "" := by
  unfold Record.ofElement
  dsimp only
  split
  · rename_i named
    constructor
    · intro failed
      rcases bind_eq_error failed with failed | ⟨fields, -, failed⟩
      · obtain ⟨child, -, failed⟩ := mem_of_mapM_error failed
        exact absurd failed fieldOf_ne_invalidName
      · rcases bind_eq_error failed with failed | ⟨plan, -, failed⟩
        · obtain ⟨child, -, failed⟩ := some_of_mapM_error failed
          exact absurd failed planOf_ne_invalidName
        · cases failed
    · rintro ⟨unnamed, rfl⟩
      rw [named] at unnamed
      cases unnamed
  · rename_i unnamed
    simp only [Except.error.injEq, RegistryFault.invalidName.injEq]
    constructor
    · rintro rfl
      exact ⟨by simpa using unnamed, rfl⟩
    · exact fun ⟨_, same⟩ => same.symm

end Registry

/-- A name that is accepted is one by which a directive speaks of a record, but for a line feed that
may stand behind it and that a directive does not see. Names that are declared have none. -/
theorem names_of_records (name : String) :
    (Selector.parse (tokenize name) = .ok (.name name) ↔
        nameList (tokenize name) = .ok [⟨name, none⟩]) ∧
      (validName name = .ok name ↔
        Selector.parse (tokenize name) = .ok (.name name) ∨
          ∃ line, name = line ++ "\n" ∧ Selector.parse (tokenize name) = .ok (.name line)) ∧
      (∀ element : Element, (element.attribute? "name").getD "" = name →
        (Record.ofElement element = .error (.invalidName name) ↔ validName name ≠ .ok name) ∧
          ∀ record, Record.ofElement element = .ok record → record.name = name) ∧
      ∀ note entries documentation, declaredNames note = .ok entries →
        ⟨name, documentation⟩ ∈ entries → Selector.parse (tokenize name) = .ok (.name name) := by
  refine ⟨parse_eq_name_iff.trans nameList_eq_name_iff.symm, ?_, fun element own => ⟨?_, ?_⟩, ?_⟩
  · rw [validName_eq_ok_iff, and_iff_left rfl, isName_iff, parse_eq_name_iff]
    refine or_congr_right (exists_congr fun line => ?_)
    rw [and_comm]
    refine and_congr_right fun same => ?_
    rw [same, tokenize_lineFeed, parse_eq_name_iff]
  · rw [recordOf_eq_invalidName_iff, ne_eq, validName_eq_ok_iff, and_iff_left rfl, Bool.not_eq_true]
    exact and_iff_left own.symm
  · intro record read
    have parts := congrArg Record.name (recordOf_eq_ok read).2.2.2
    exact parts.trans own
  · intro note entries documentation read member
    obtain ⟨text, -, listed⟩ := bind_eq_ok read
    exact parse_eq_name_iff.2 (isIdentifier_of_mem_nameList listed _ member)

theorem names_of_records_declared :
    declaredNames "substruct(\"The short form.\" Plain)" = .ok [⟨"Plain", some "The short form."⟩] ∧
      Selector.parse (tokenize "Plain") = .ok (.name "Plain") := by
  have read : declaredNames "substruct(\"The short form.\" Plain)" =
      .ok [⟨"Plain", some "The short form."⟩] := by decide +kernel
  exact ⟨read, (names_of_records "Plain").2.2.2 _ _ _ read List.mem_cons_self⟩

theorem not_names_of_records :
    ¬ ∀ name, validName name = .ok name ↔ Selector.parse (tokenize name) = .ok (.name name) := by
  intro same
  have accepted : validName "Plain\n" = .ok "Plain\n" := by decide
  have read : Selector.parse (tokenize "Plain\n") = .ok (.name "Plain") := by
    have tokens : tokenize "Plain\n" = tokenize "Plain" := tokenize_lineFeed "Plain"
    rw [tokens]
    exact parse_eq_name_iff.2 (by decide)
  have other := (same "Plain\n").1 accepted
  rw [read, Except.ok.injEq, Selector.name.injEq] at other
  exact absurd other (by decide)

end RecordProjection
