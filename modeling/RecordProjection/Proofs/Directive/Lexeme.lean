import Mathlib.Data.List.Chain
import RecordProjection.Proofs.Directive.Extent
import RecordProjection.Proofs.Directive.Items

/-! Words that are tokens by themselves. Every token is one, and scanning goes on behind a text that
neither a name nor a string goes on from; so a text made of such words with blanks between them has
just these words for its tokens. -/

namespace RecordProjection.Directive
open Text

section Scanning
variable {start : Nat} {first second : List Char}

theorem scan_nil (start : Nat) : scan start [] = [] := by rw [scan]

theorem scan_blank {c : Char} (blank : isBlank c = true) (rest : List Char) :
    scan start (c :: rest) = scan (start + 1) rest := by
  rw [scan, if_pos blank]

theorem scan_solid {c : Char} (solid : isBlank c = false) (rest : List Char) :
    scan start (c :: rest) =
      ⟨(extent c rest).1, .ofList (c :: rest.take (extent c rest).2), start,
        start + 1 + (extent c rest).2⟩ ::
        scan (start + 1 + (extent c rest).2) (rest.drop (extent c rest).2) := by
  rw [scan, if_neg (by simp [solid])]

theorem WordEnds.of_suffix {whole : List Char} (ends : WordEnds whole second)
    (suffix : first <:+ whole) : WordEnds first second := by
  obtain ⟨front, rfl⟩ := suffix
  intro c last
  exact ends c (by rw [List.getLast?_append, last]; rfl)

/-- Scanning goes on behind a text that nothing goes on from: neither a name nor a string. -/
theorem scan_append (ends : WordEnds first second)
    (quotes : doubleQuote ∈ second → ∀ token ∈ scan start first, token.text ≠ "\"") :
    scan start (first ++ second) = scan start first ++ scan (start + first.length) second := by
  fun_induction scan start first with
  | case1 => simp
  | case2 start c rest blank ih =>
    rw [List.cons_append, scan_blank blank, ih (ends.of_suffix (List.suffix_cons c rest)) quotes,
      List.length_cons, Nat.add_assoc, Nat.add_comm 1]
  | case3 start c rest solid kind count reading ih =>
    rw [Bool.not_eq_true] at solid
    have same : extent c (rest ++ second) = (kind, count) := by
      rw [extent_append ends, reading]
      intro quote unclosed quoted
      have alone : extent c rest = (.punct, 0) := by
        unfold extent
        rw [if_pos quote, unclosed]
      cases reading.symm.trans alone
      exact quotes quoted _ List.mem_cons_self (by rw [quote]; rfl)
    have within : count ≤ rest.length := by
      have room := (extent_closes rest solid).1
      rwa [reading] at room
    rw [List.cons_append, scan_solid solid, same, List.take_append_of_le_length within,
      List.drop_append_of_le_length within, ih]
    · have reached : start + 1 + count + (rest.drop count).length = start + (c :: rest).length := by
        rw [List.length_drop, List.length_cons]
        omega
      rw [reached, List.cons_append]
    · exact ends.of_suffix ((List.drop_suffix _ _).trans (List.suffix_cons c rest))
    · exact fun quoted token member => quotes quoted token (List.mem_cons_of_mem _ member)

end Scanning

def IsLexeme (kind : TokenKind) (word : List Char) : Prop :=
  ∃ c rest, word = c :: rest ∧ isBlank c = false ∧ extent c rest = (kind, rest.length)

theorem IsLexeme.unique {kind other : TokenKind} {word : List Char} (one : IsLexeme kind word)
    (second : IsLexeme other word) : kind = other := by
  obtain ⟨c, rest, rfl, -, reading⟩ := one
  obtain ⟨d, more, same, -, again⟩ := second
  cases same
  rw [reading] at again
  exact congrArg Prod.fst again

theorem isLexeme_of_mem_scan {text : List Char} {start : Nat} {token : Token}
    (member : token ∈ scan start text) : IsLexeme token.kind token.text.toList := by
  obtain ⟨before, c, rest, -, solid, rfl⟩ := read_of_mem_scan member
  have within := (extent_closes rest solid).1
  refine ⟨c, rest.take (extent c rest).2, String.toList_ofList, solid, ?_⟩
  rw [extent_take solid (Nat.le_refl _), List.length_take_of_le within]
  rfl

def Token.IsLexical (token : Token) : Prop :=
  ∃ text, ∃ scanned ∈ tokenize text, scanned.kind = token.kind ∧ scanned.text = token.text

theorem isLexical_of_mem_tokenize {text : String} {token : Token}
    (member : token ∈ tokenize text) : token.IsLexical := ⟨text, token, member, rfl, rfl⟩

theorem Token.IsLexical.lexeme {token : Token} (lexical : token.IsLexical) :
    IsLexeme token.kind token.text.toList := by
  obtain ⟨text, scanned, member, kind, same⟩ := lexical
  rw [← kind, ← same]
  exact isLexeme_of_mem_scan member

theorem IsLexeme.endsSolid {kind : TokenKind} {word : List Char} (lexeme : IsLexeme kind word) :
    EndsSolid word := by
  obtain ⟨c, rest, rfl, solid, reading⟩ := lexeme
  have closes := (extent_closes rest solid).2
  rwa [reading, List.take_length] at closes

theorem IsLexeme.present {kind : TokenKind} {word : List Char} (lexeme : IsLexeme kind word) :
    word ≠ [] := by
  obtain ⟨c, rest, rfl, -⟩ := lexeme
  exact List.cons_ne_nil c rest

theorem IsLexeme.startsSolid {kind : TokenKind} {word : List Char} (lexeme : IsLexeme kind word) :
    StartsSolid word := by
  obtain ⟨c, rest, rfl, solid, -⟩ := lexeme
  intro d first
  cases first
  exact solid

theorem isLexeme_of_isIdentifier {word : List Char} (identifier : isIdentifier word = true) :
    IsLexeme .ident word := by
  cases word with
  | nil => cases identifier
  | cons c rest =>
    rw [isIdentifier, Bool.and_eq_true, List.all_eq_true] at identifier
    obtain ⟨start, letters⟩ := identifier
    have quote : c ≠ doubleQuote := by
      rintro rfl
      revert start
      decide
    have mark : c ≠ apostrophe := by
      rintro rfl
      revert start
      decide
    refine ⟨c, rest, rfl, isBlank_of_isIdentChar (isIdentChar_of_isIdentStart start), ?_⟩
    rw [extent, if_neg quote, if_neg mark, if_pos start, List.takeWhile_eq_self_iff.2 letters]

theorem isLexeme_opening : IsLexeme .opening "(".toList := ⟨'(', [], rfl, by decide, rfl⟩

theorem isLexeme_closing : IsLexeme .closing ")".toList := ⟨')', [], rfl, by decide, rfl⟩

theorem isLexeme_comma : IsLexeme .comma ",".toList := ⟨',', [], rfl, by decide, rfl⟩

theorem Token.IsLexical.kind_eq {token : Token} {kind : TokenKind} (lexical : token.IsLexical)
    (lexeme : IsLexeme kind token.text.toList) : token.kind = kind :=
  lexical.lexeme.unique lexeme

theorem Token.IsLexical.opening {token : Token} (lexical : token.IsLexical)
    (parenthesis : token.text = "(") : token.kind = .opening :=
  lexical.kind_eq (parenthesis ▸ isLexeme_opening)

theorem Token.IsLexical.closing {token : Token} (lexical : token.IsLexical)
    (parenthesis : token.text = ")") : token.IsCloser ")" :=
  ⟨lexical.kind_eq (parenthesis ▸ isLexeme_closing), parenthesis⟩

theorem Token.IsLexical.comma {token : Token} (lexical : token.IsLexical)
    (comma : token.text = ",") : token.IsComma :=
  lexical.kind_eq (comma ▸ isLexeme_comma)

theorem Token.IsLexical.ident {token : Token} (lexical : token.IsLexical)
    (identifier : isIdentifier token.text.toList = true) : token.kind = .ident :=
  lexical.kind_eq (isLexeme_of_isIdentifier identifier)

theorem scan_lexeme {kind : TokenKind} {word : List Char} (lexeme : IsLexeme kind word)
    (start : Nat) : scan start word = [⟨kind, .ofList word, start, start + word.length⟩] := by
  obtain ⟨c, rest, rfl, solid, reading⟩ := lexeme
  rw [scan_solid solid, reading, List.take_length, List.drop_length, scan_nil, List.length_cons,
    Nat.add_assoc, Nat.add_comm 1]

theorem scan_lexeme_append {kind : TokenKind} {word more : List Char} (lexeme : IsLexeme kind word)
    (unquoted : word ≠ [doubleQuote]) (ends : WordEnds word more) (start : Nat) :
    scan start (word ++ more) = ⟨kind, .ofList word, start, start + word.length⟩ ::
      scan (start + word.length) more := by
  have alone := scan_lexeme lexeme start
  have closed : ∀ token ∈ scan start word, token.text ≠ "\"" := by
    intro token member same
    rw [alone, List.mem_singleton] at member
    rw [member] at same
    exact unquoted (String.ofList_injective same)
  rw [scan_append ends fun _ => closed, alone, List.singleton_append]

/-- Scanning goes on behind a comma in any text, if no quote is left open before it. -/
theorem scan_comma {start : Nat} {first : List Char} (second : List Char)
    (closed : ∀ token ∈ scan start first, token.text ≠ "\"") :
    scan start (first ++ ',' :: second) = scan start first ++
      ⟨.comma, ",", start + first.length, start + first.length + 1⟩ ::
        scan (start + first.length + 1) second := by
  have between : WordEnds first (',' :: second) := by
    rintro - - - c ⟨⟩
    decide
  rw [scan_append between fun _ => closed, scan_solid (by decide)]
  rfl

inductive Spaced : List String → List Char → Prop
  | done {gap : List Char} (blank : ∀ c ∈ gap, isBlank c = true) : Spaced [] gap
  | word {gap text : List Char} {word : String} {words : List String}
      (blank : ∀ c ∈ gap, isBlank c = true) (behind : Spaced words text) :
      Spaced (word :: words) (gap ++ (word.toList ++ text))

theorem scan_gap {gap : List Char} (blank : ∀ c ∈ gap, isBlank c = true) (start : Nat)
    (text : List Char) : scan start (gap ++ text) = scan (start + gap.length) text := by
  induction gap generalizing start with
  | nil => rfl
  | cons c rest ih =>
    obtain ⟨first, others⟩ := List.forall_mem_cons.1 blank
    rw [List.cons_append, scan_blank first, ih others, List.length_cons, Nat.add_assoc,
      Nat.add_comm 1]

def Apart (first second : String) : Prop := WordEnds first.toList second.toList

theorem isIdentChar_of_isBlank {c : Char} (blank : isBlank c = true) : isIdentChar c = false := by
  by_contra ident
  rw [Bool.not_eq_false] at ident
  rw [isBlank_of_isIdentChar ident] at blank
  cases blank

theorem startsFresh_append {gap text : List Char} (blank : ∀ c ∈ gap, isBlank c = true)
    (fresh : StartsFresh text) : StartsFresh (gap ++ text) := by
  cases gap with
  | nil => exact fresh
  | cons d more =>
    intro c first
    cases first
    exact isIdentChar_of_isBlank (blank d List.mem_cons_self)

theorem startsFresh_of_spaced {words : List String} {text : List Char}
    (spaced : Spaced words text)
    (first : ∀ word, words.head? = some word → word.toList ≠ [] ∧ StartsFresh word.toList) :
    StartsFresh text := by
  cases spaced with
  | done blank =>
    have fresh : StartsFresh (_ ++ []) := startsFresh_append blank fun c none => by cases none
    rwa [List.append_nil] at fresh
  | word blank behind =>
    obtain ⟨present, fresh⟩ := first _ rfl
    refine startsFresh_append blank fun c found => fresh c ?_
    rwa [List.head?_append_of_ne_nil _ present] at found

/-- Words that are read as they are: each is a token, and no two of them run together. -/
structure Legible (words : List String) : Prop where
  lexemes : ∀ word ∈ words, word ≠ "\"" ∧ ∃ kind, IsLexeme kind word.toList
  apart : words.IsChain Apart

theorem texts_of_spaced {words : List String} {text : List Char} (spaced : Spaced words text)
    (legible : Legible words) (start : Nat) : (scan start text).map Token.text = words := by
  induction spaced generalizing start with
  | @done gap blank =>
    have nothing := scan_gap blank start []
    rw [List.append_nil, scan_nil] at nothing
    rw [nothing, List.map_nil]
  | @word gap text word words blank behind ih =>
    obtain ⟨lexemes, apart⟩ := legible
    obtain ⟨⟨unquoted, kind, lexeme⟩, others⟩ := List.forall_mem_cons.1 lexemes
    have ends : WordEnds word.toList text := by
      intro c last word_end
      refine startsFresh_of_spaced behind fun next found => ?_
      obtain ⟨-, kind, following⟩ := others next (List.mem_of_head? found)
      exact ⟨following.present, apart.rel_head? found c last word_end⟩
    have alone : word.toList ≠ [doubleQuote] := fun same =>
      unquoted (String.toList_inj.1 same)
    rw [scan_gap blank, scan_lexeme_append lexeme alone ends, List.map_cons,
      ih ⟨others, apart.tail⟩, String.ofList_toList]

structure IsSolo (word : String) : Prop where
  unquoted : word ≠ "\""
  lexeme : ∃ kind, IsLexeme kind word.toList
  fresh : StartsFresh word.toList
  closed : ∀ c, word.toList.getLast? = some c → ¬ (isIdentChar c = true ∨ c = apostrophe)

theorem isSolo_opening : IsSolo "(" :=
  ⟨by decide, ⟨.opening, isLexeme_opening⟩, by rintro c ⟨⟩; decide,
    by rintro c ⟨⟩; decide⟩

theorem isSolo_closing : IsSolo ")" :=
  ⟨by decide, ⟨.closing, isLexeme_closing⟩, by rintro c ⟨⟩; decide,
    by rintro c ⟨⟩; decide⟩

theorem isSolo_comma : IsSolo "," :=
  ⟨by decide, ⟨.comma, isLexeme_comma⟩, by rintro c ⟨⟩; decide,
    by rintro c ⟨⟩; decide⟩

namespace Legible
variable {first second words : List String} {word : String}

theorem nil : Legible [] := ⟨List.forall_mem_nil _, .nil⟩

theorem ident (identifier : isIdentifier word.toList = true) : Legible [word] where
  lexemes := by
    refine List.forall_mem_singleton.2 ⟨?_, .ident, isLexeme_of_isIdentifier identifier⟩
    rintro rfl
    revert identifier
    decide
  apart := List.isChain_singleton word

theorem cons (solo : IsSolo word) (legible : Legible words) : Legible (word :: words) where
  lexemes := List.forall_mem_cons.2 ⟨⟨solo.unquoted, solo.lexeme⟩, legible.lexemes⟩
  apart := legible.apart.cons fun _ _ c last ends => absurd ends (solo.closed c last)

theorem append (one : Legible first) (solo : IsSolo word) (other : Legible second) :
    Legible (first ++ word :: second) where
  lexemes := List.forall_mem_append.2 ⟨one.lexemes, (other.cons solo).lexemes⟩
  apart := by
    refine one.apart.append (other.cons solo).apart fun _ _ next found => ?_
    cases found
    exact fun _ _ _ => solo.fresh

theorem joined {items : List (List String)} (joined : Joined (· = ",") items words)
    (each : ∀ item ∈ items, Legible item) : Legible words := by
  induction joined with
  | last item => exact each item List.mem_cons_self
  | more comma _ ih =>
    obtain ⟨item, others⟩ := List.forall_mem_cons.1 each
    exact item.append (comma ▸ isSolo_comma) (ih others)

theorem listed {items : List (List String)} (listed : Listed (· = ",") items words)
    (each : ∀ item ∈ items, Legible item) : Legible words := by
  cases listed with
  | none => exact .nil
  | joined joined => exact .joined joined each
  | closed joined comma => exact (Legible.joined joined each).append (comma ▸ isSolo_comma) .nil

theorem call (identifier : isIdentifier word.toList = true) (legible : Legible words) :
    Legible (word :: "(" :: (words ++ [")"])) :=
  (Legible.ident identifier).append isSolo_opening (legible.append isSolo_closing .nil)

end Legible

end RecordProjection.Directive
