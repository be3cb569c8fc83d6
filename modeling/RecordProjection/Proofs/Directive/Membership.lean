import RecordProjection.Proofs.Directive.Body
import RecordProjection.Proofs.Directive.Literal
import RecordProjection.Proofs.Directive.Parsing
import RecordProjection.Proofs.Selector.Printing

/-! Membership directives in writing. Entries are written one after the other in parentheses behind
the path, each with its documentation in front, with any blanks between the words and perhaps a
comma behind the last entry; reading yields just the entries that were written. -/

namespace RecordProjection
open Directive Text

namespace Directive

def documented (documentation : Option String) (words : List String) : List String :=
  (documentation.map literal).toList ++ words

/-- Whether an annotation is a list in parentheses behind a path, whatever the blanks between its
words. -/
def IsListing (path : String) (items : List (List String)) (note : String) : Prop :=
  ∃ inner, Listed (· = ",") items inner ∧ Spaced (path :: "(" :: (inner ++ [")"])) note.toList

theorem legible_documented {documentation : Option String} {words : List String}
    (legible : Legible words) : Legible (documented documentation words) := by
  cases documentation with
  | none => exact legible
  | some text => exact legible.cons (isSolo_literal text)

section Listings
variable {α : Type} {path note : String} {words : α → List String} {entries : List α}

theorem segments_of_written {inner : List String} {tokens : List Token}
    (listed : Listed (· = ",") (entries.map words) inner) (written : IsWritten inner tokens)
    (parts : ∀ entry ∈ entries, ∀ segment, IsWritten (words entry) segment → IsItem segment) :
    Balanced tokens ∧ ∃ pairs : List (List Token × α),
      splitTopLevel tokens = pairs.map Prod.fst ∧ entries = pairs.map Prod.snd ∧
        ∀ pair ∈ pairs, IsWritten (words pair.2) pair.1 := by
  obtain ⟨pairs, rfl, commas, each⟩ := written.listed listed
  have solid : ∀ segment ∈ pairs.map Prod.fst, IsItem segment := by
    refine List.forall_mem_map.2 fun pair member => ?_
    exact parts pair.2 (List.mem_map_of_mem member) pair.1 (each pair member)
  exact ⟨commas.balanced solid, pairs, splitTopLevel_listed commas solid, rfl, each⟩

theorem body_of_listing {inner : List String} (identifier : isIdentifier path.toList = true)
    (spaced : Spaced (path :: "(" :: (inner ++ [")"])) note.toList) (legible : Legible inner)
    (balanced : ∀ tokens, IsWritten inner tokens → Balanced tokens) :
    ∃ text, body path note = .ok text ∧ IsWritten inner (tokenize text) := by
  have start := isLexeme_of_isIdentifier identifier
  have solid : ∀ word ∈ path :: "(" :: (inner ++ [")"]),
      word.toList ≠ [] ∧ EndsSolid word.toList := by
    intro word member
    obtain ⟨-, kind, lexeme⟩ := (Legible.call identifier legible).lexemes word member
    exact ⟨lexeme.present, lexeme.endsSolid⟩
  have behind : IsWritten ("(" :: (inner ++ [")"])) (tokenize (behindPath path note)) :=
    isWritten_tokenize (spaced_behindPath spaced solid start.startsSolid)
      ((legible.append isSolo_closing .nil).cons isSolo_opening)
  obtain ⟨opener, middle, closer, tokens, opens, written, closes⟩ := behind.enclosed
  have encloses : Encloses (tokenize (behindPath path note)) opener middle closer :=
    ⟨tokens, opens, closes, balanced middle written⟩
  -- The body is read once more from its text, and has the same tokens at other places.
  refine ⟨_, body_of_encloses encloses, fun _ => isLexical_of_mem_tokenize, ?_⟩
  have same := congrArg (List.map Prod.snd) (shapes_of_encloses encloses)
  rw [List.map_map, List.map_map] at same
  exact same.trans written.texts

theorem read_listing {read : List Token → Except Malformation α}
    (identifier : isIdentifier path.toList = true)
    (listing : IsListing path (entries.map words) note)
    (legible : ∀ entry ∈ entries, Legible (words entry))
    (reads : ∀ entry ∈ entries, ∀ segment, IsWritten (words entry) segment →
      IsItem segment ∧ read segment = .ok entry) :
    leadingPath note = some path ∧ ∃ text, body path note = .ok text ∧
      (splitTopLevel (tokenize text)).mapM read = .ok entries := by
  obtain ⟨inner, listed, spaced⟩ := listing
  have parts : ∀ entry ∈ entries, ∀ segment, IsWritten (words entry) segment → IsItem segment :=
    fun entry member segment written => (reads entry member segment written).1
  obtain ⟨text, inside, written⟩ := body_of_listing identifier spaced
    (.listed listed (List.forall_mem_map.2 legible))
    fun tokens written => (segments_of_written listed written parts).1
  obtain ⟨-, pairs, segments, rfl, each⟩ := segments_of_written listed written parts
  refine ⟨leadingPath_of_spaced spaced identifier, text, inside, ?_⟩
  rw [segments]
  refine mapM_map_of_ok Prod.fst Prod.snd fun pair member => ?_
  exact (reads pair.2 (List.mem_map_of_mem member) pair.1 (each pair member)).2

end Listings

section Items
variable {words : List String} {documentation : Option String} {segment : List Token}

theorem splitDocumentation_of_written
    (written : IsWritten (documented documentation words) segment)
    (starts : ∀ tokens, IsWritten words tokens →
      ∃ head rest, tokens = head :: rest ∧ head.kind = .ident) :
    ∃ tokens, IsWritten words tokens ∧ splitDocumentation segment = (documentation, tokens) ∧
      (IsItem tokens → IsItem segment) := by
  cases documentation with
  | none =>
    obtain ⟨head, rest, rfl, ident⟩ := starts segment written
    exact ⟨head :: rest, written, if_neg (by simp [ident]), id⟩
  | some text =>
    obtain ⟨token, rest, rfl, lexical, own, others⟩ := IsWritten.cons written
    have string : token.kind = .string := lexical.kind_eq (own ▸ isLexeme_literal text)
    refine ⟨rest, others, ?_, .cons ?_ ?_⟩
    · rw [splitDocumentation, if_pos string, own, unquote_literal]
    · simp [Token.IsPlain, string]
    · simp [Token.IsComma, string]

theorem startsIdent_of_written {selector : Selector} {tokens : List Token}
    (named : selector.Named) (written : IsWritten selector.words tokens) :
    ∃ head rest, tokens = head :: rest ∧ head.kind = .ident := by
  cases Selector.denotes_of_words named written with
  | name ident _ => exact ⟨_, [], rfl, ident⟩
  | operation ident => exact ⟨_, _, rfl, ident⟩

end Items

end Directive

def MembershipEntry.words (entry : MembershipEntry) : List String :=
  documented entry.documentation entry.selector.words

namespace Directive

def NameEntry.words (entry : NameEntry) : List String :=
  documented entry.documentation [entry.name]

theorem membershipEntry_of_parse {segment tokens : List Token} {documentation : Option String}
    {selector : Selector} (split : splitDocumentation segment = (documentation, tokens))
    (read : Selector.parse tokens = .ok selector) :
    membershipEntry segment = .ok ⟨selector, documentation⟩ := by
  rw [membershipEntry, split]
  dsimp only
  rw [read]
  rfl

theorem membership_of_parse {note text : String} {segment tokens : List Token}
    {documentation : Option String} {selector : Selector}
    (inside : body DirectiveKind.membership.path note = .ok text)
    (single : splitTopLevel (tokenize text) = [segment])
    (split : splitDocumentation segment = (documentation, tokens))
    (read : Selector.parse tokens = .ok selector) :
    membership note = .ok [⟨selector, documentation⟩] := by
  rw [membership, inside]
  dsimp only [bind, Except.bind]
  rw [membershipList, single, List.mapM_cons, membershipEntry_of_parse split read, List.mapM_nil]
  rfl

theorem membershipEntry_of_written {entry : MembershipEntry} (named : entry.selector.Named)
    {segment : List Token} (written : IsWritten entry.words segment) :
    IsItem segment ∧ membershipEntry segment = .ok entry := by
  obtain ⟨tokens, selector, split, item⟩ :=
    splitDocumentation_of_written written fun tokens => startsIdent_of_written named
  have denotes := Selector.denotes_of_words named selector
  exact ⟨item denotes.isItem, membershipEntry_of_parse split denotes.parse⟩

theorem nameEntry_of_written {entry : NameEntry}
    (identifier : isIdentifier entry.name.toList = true)
    {segment : List Token} (written : IsWritten entry.words segment) :
    IsItem segment ∧ nameEntry segment = .ok entry := by
  have named : (Selector.name entry.name).Named := List.forall_mem_singleton.2 identifier
  obtain ⟨tokens, name, split, item⟩ :=
    splitDocumentation_of_written written fun tokens => startsIdent_of_written named
  refine ⟨item (Selector.denotes_of_words named name).isItem, ?_⟩
  obtain ⟨token, rfl, -, own⟩ := IsWritten.single name
  have solid := (isLexeme_of_isIdentifier identifier).endsSolid
  rw [nameEntry, split]
  dsimp only
  rw [own, if_pos ((Selector.isName_eq_isIdentifier solid).trans identifier)]

theorem isIdentifier_path (kind : DirectiveKind) : isIdentifier kind.path.toList = true := by
  cases kind <;> decide

theorem membership_of_listing {entries : Membership} {note : String}
    (named : ∀ entry ∈ entries, entry.selector.Named)
    (listing : IsListing DirectiveKind.membership.path (entries.map MembershipEntry.words) note) :
    directiveKind? note = some .membership ∧ membership note = .ok entries := by
  obtain ⟨path, text, inside, read⟩ := read_listing (isIdentifier_path .membership) listing
    (fun entry member => legible_documented (entry.selector.legible_words (named entry member)))
    fun entry member segment => membershipEntry_of_written (named entry member)
  refine ⟨by rw [directiveKind?, path]; rfl, ?_⟩
  rw [membership, inside]
  exact read

theorem declaredNames_of_listing {entries : List NameEntry} {note : String}
    (identifiers : ∀ entry ∈ entries, isIdentifier entry.name.toList = true)
    (listing : IsListing DirectiveKind.membership.path (entries.map NameEntry.words) note) :
    directiveKind? note = some .membership ∧ declaredNames note = .ok entries := by
  obtain ⟨path, text, inside, read⟩ := read_listing (isIdentifier_path .membership) listing
    (fun entry member => legible_documented (.ident (identifiers entry member)))
    fun entry member segment => nameEntry_of_written (identifiers entry member)
  refine ⟨by rw [directiveKind?, path]; rfl, ?_⟩
  rw [declaredNames, inside]
  exact read

end Directive

theorem code_of_mem_unknownTargets {declared : Option Declared} {location : String}
    {names : List String} {diagnostic : Diagnostic}
    (member : diagnostic ∈ unknownTargets declared location names) :
    diagnostic.code = .unknownTarget := by
  unfold unknownTargets at member
  split at member
  · cases member
  · obtain ⟨name, -, rfl⟩ := List.mem_map.1 member
    rfl

/-- Lists are read back as they were written: on a field the entries of the memberships, and nothing
is reported as malformed; on a record the names to create. -/
theorem listings_read_back :
    (∀ (entries : Membership) (note : String), (∀ entry ∈ entries, entry.selector.Named) →
      IsListing DirectiveKind.membership.path (entries.map MembershipEntry.words) note →
      ∀ (field : Field) (record : String) (index : Int) (declared : Option Declared),
        field.annotations = [note] →
          (field.parse record index).membership = entries ∧
            ∀ diagnostic ∈ field.diagnostics record index declared,
              diagnostic.code ≠ .malformed) ∧
      ∀ (entries : List NameEntry) (note : String),
        (∀ entry ∈ entries, isIdentifier entry.name.toList = true) →
        IsListing DirectiveKind.membership.path (entries.map NameEntry.words) note →
        directiveKind? note = some .membership ∧ declaredNames note = .ok entries := by
  refine ⟨fun entries note named listing field record index declared alone => ?_,
    fun entries note => declaredNames_of_listing⟩
  obtain ⟨kind, read⟩ := membership_of_listing named listing
  constructor
  · rw [parse_membership, alone, List.flatMap_singleton, listedEntries, if_pos kind, read]
    rfl
  · intro diagnostic member
    rw [Field.diagnostics, Field.directives, flatMap_directivesOf, alone, List.zipIdx_singleton,
      List.flatMap_singleton, readingOf, kind, Option.bind_some, read] at member
    rw [code_of_mem_unknownTargets member]
    decide

theorem listings_read_back_nested :
    let entries : Membership :=
      [⟨.not (.any [.name "A", .all []]), some "\"\\,\n("⟩, ⟨.name "any", none⟩]
    let note := " substruct (\"\\\"\\\\,\n(\" not(any( A,all()))\t,any,) "
    let names : List NameEntry := [⟨"A", some ")"⟩]
    (∀ entry ∈ entries, entry.selector.Named) ∧
      IsListing DirectiveKind.membership.path (entries.map MembershipEntry.words) note ∧
      (Field.parse ⟨none, "", "u8", [note]⟩ "R" 0).membership = entries ∧
      (∀ entry ∈ names, isIdentifier entry.name.toList = true) ∧
      IsListing DirectiveKind.membership.path (names.map NameEntry.words) "substruct(\")\"A)" ∧
      declaredNames "substruct(\")\"A)" = .ok names := by
  intro entries note names
  have bare : ∀ c ∈ ([] : List Char), isBlank c = true := List.forall_mem_nil _
  have space : ∀ c ∈ [' '], isBlank c = true := List.forall_mem_singleton.2 rfl
  have tab : ∀ c ∈ ['\t'], isBlank c = true := List.forall_mem_singleton.2 rfl
  have named : ∀ entry ∈ entries, entry.selector.Named := by
    unfold Selector.Named
    decide
  have identifiers : ∀ entry ∈ names, isIdentifier entry.name.toList = true := by decide
  have fields :
      IsListing DirectiveKind.membership.path (entries.map MembershipEntry.words) note := by
    unfold note
    exact ⟨_, .closed (.more rfl (.last _)) rfl,
      @Spaced.word _ _ "substruct" _ space <| @Spaced.word _ _ "(" _ space <|
      @Spaced.word _ _ (literal "\"\\,\n(") _ bare <| @Spaced.word _ _ "not" _ space <|
      @Spaced.word _ _ "(" _ bare <| @Spaced.word _ _ "any" _ bare <|
      @Spaced.word _ _ "(" _ bare <| @Spaced.word _ _ "A" _ space <|
      @Spaced.word _ _ "," _ bare <| @Spaced.word _ _ "all" _ bare <|
      @Spaced.word _ _ "(" _ bare <| @Spaced.word _ _ ")" _ bare <|
      @Spaced.word _ _ ")" _ bare <| @Spaced.word _ _ ")" _ bare <|
      @Spaced.word _ _ "," _ tab <| @Spaced.word _ _ "any" _ bare <|
      @Spaced.word _ _ "," _ bare <| @Spaced.word _ _ ")" _ bare <| .done space⟩
  have record : IsListing DirectiveKind.membership.path (names.map NameEntry.words)
      "substruct(\")\"A)" :=
    ⟨_, .joined (.last _),
      @Spaced.word _ _ "substruct" _ bare <| @Spaced.word _ _ "(" _ bare <|
      @Spaced.word _ _ (literal ")") _ bare <| @Spaced.word _ _ "A" _ bare <|
      @Spaced.word _ _ ")" _ bare <| .done bare⟩
  exact ⟨named, fields, (listings_read_back.1 entries note named fields _ _ _ none rfl).1,
    identifiers, record, (listings_read_back.2 names _ identifiers record).2⟩

end RecordProjection
