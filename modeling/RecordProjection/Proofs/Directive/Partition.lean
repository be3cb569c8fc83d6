import RecordProjection.Proofs.Directive.Slicing

/-! How the tokens of a text lie in it. They are cut out of the text in order with nothing but
blanks around them, so no character is lost and none belongs to two of them. A name goes on as far
as it can, and a quote opens a string if another one closes it. -/

namespace RecordProjection.Directive
open Text

/-- Tokens that partition a text, up to blanks. -/
structure Partitions (tokens : List Token) (text : String) : Prop where
  spans : ∀ token ∈ tokens, token.start < token.stop ∧ token.stop ≤ text.length ∧
    token.text = slice text token.start token.stop
  ordered : tokens.Pairwise fun first second => first.stop ≤ second.start
  /-- What stands before the first token, between two tokens and behind the last one. -/
  gaps : ∀ before after, tokens = before ++ after →
    ∀ c ∈ (slice text (reach before) (onset text after)).toList, isBlank c = true
  solid : ∀ token ∈ tokens, token.kind ≠ .string → ∀ c ∈ token.text.toList, isBlank c = false
  maximal : ∀ token ∈ tokens, token.kind = .ident → StartsFresh (text.toList.drop token.stop)
  /-- A string ends at the first quote behind its units. -/
  closed : ∀ token ∈ tokens, ∀ (units : List StringUnit) (more : List Char),
    text.toList.drop token.start =
        doubleQuote :: (units.flatMap StringUnit.written ++ doubleQuote :: more) →
      token.kind = .string ∧
        token.stop = token.start + (units.flatMap StringUnit.written).length + 2
  /-- A quote that nothing closes stands alone. -/
  unclosed : ∀ token ∈ tokens, ∀ rest : List Char,
    text.toList.drop token.start = doubleQuote :: rest →
    (∀ (units : List StringUnit) (more : List Char),
      rest ≠ units.flatMap StringUnit.written ++ doubleQuote :: more) →
      token.kind = .punct ∧ token.stop = token.start + 1

section Reading
variable {c : Char} {rest : List Char} {kind : TokenKind} {count : Nat}

theorem solid_of_reads (reads : Reads c rest kind count) (plain : kind ≠ .string)
    (solid : isBlank c = false) : ∀ d ∈ c :: rest.take count, isBlank d = false := by
  refine List.forall_mem_cons.2 ⟨solid, fun d member => ?_⟩
  cases reads with
  | string => exact absurd rfl plain
  | @lifetime first more mark split start =>
    rw [split, List.take_succ_cons, take_length_takeWhile] at member
    rcases List.mem_cons.1 member with rfl | later
    · exact isBlank_of_isIdentChar (isIdentChar_of_isIdentStart start)
    · exact isBlank_of_isIdentChar (List.mem_takeWhile_imp later)
  | word start =>
    rw [take_length_takeWhile] at member
    exact isBlank_of_isIdentChar (List.mem_takeWhile_imp member)
  | single => cases member

theorem startsFresh_dropWhile (text : List Char) :
    StartsFresh (text.drop (text.takeWhile isIdentChar).length) := by
  intro d first
  have outside := List.head?_dropWhile_not isIdentChar text
  have behind : text.drop (text.takeWhile isIdentChar).length = text.dropWhile isIdentChar := by
    have whole := List.take_append_drop (text.takeWhile isIdentChar).length text
    rw [take_length_takeWhile] at whole
    exact List.append_cancel_left (whole.trans List.takeWhile_append_dropWhile.symm)
  rw [behind] at first
  simpa [first] using outside

theorem startsFresh_of_reads (reads : Reads c rest .ident count) :
    StartsFresh (rest.drop count) := by
  cases reads with
  | lifetime mark split start =>
    rw [split, List.drop_succ_cons]
    exact startsFresh_dropWhile _
  | word start => exact startsFresh_dropWhile rest
  | single other => exact absurd rfl other.2

end Reading

section Places
variable {text : String} {token : Token}

theorem exists_read (member : token ∈ tokenize text) :
    ∃ c rest, text.toList.drop token.start = c :: rest ∧
      text.toList.drop token.stop = rest.drop (extent c rest).2 ∧ isBlank c = false ∧
      token = tokenAt token.start c rest := by
  obtain ⟨before, c, rest, split, solid, same⟩ := read_of_mem_scan member
  rw [Nat.zero_add] at same
  have start : token.start = before.length := by rw [same, tokenAt]
  have stop : token.stop = before.length + 1 + (extent c rest).2 := by rw [same, tokenAt]
  refine ⟨c, rest, by rw [split, start, List.drop_left], ?_, solid, by rw [start, ← same]⟩
  rw [stop, split, ← List.drop_drop, ← List.drop_drop, List.drop_left, List.drop_one,
    List.tail_cons]

theorem quoted_token {rest : List Char} (member : token ∈ tokenize text)
    (quote : text.toList.drop token.start = doubleQuote :: rest) :
    token = tokenAt token.start doubleQuote rest := by
  obtain ⟨c, behind, place, -, -, same⟩ := exists_read member
  obtain ⟨rfl, rfl⟩ := List.cons.inj (place.symm.trans quote)
  exact same

end Places

theorem extent_closed {rest : List Char} {count : Nat} (read : stringExtent rest = some count) :
    extent doubleQuote rest = (.string, count) := by
  rw [extent, if_pos rfl, read]

theorem extent_unclosed {rest : List Char} (read : stringExtent rest = none) :
    extent doubleQuote rest = (.punct, 0) := by
  rw [extent, if_pos rfl, read]

/-- The tokens of any text partition it. -/
theorem tokenize_partitions (text : String) : Partitions (tokenize text) text where
  spans := fun token member => ⟨start_lt_stop member, text_eq_slice member⟩
  ordered := pairwise_scan 0 text.toList
  gaps := fun before after tokens => isBlank_between tokens
  solid := by
    intro token member plain
    obtain ⟨c, rest, -, -, solid, same⟩ := exists_read member
    rw [same] at plain ⊢
    rw [tokenAt, String.toList_ofList]
    exact solid_of_reads (reads_of_extent rfl) plain solid
  maximal := by
    intro token member ident
    obtain ⟨c, rest, -, behind, -, same⟩ := exists_read member
    rw [same] at ident
    rw [behind]
    have reads : Reads c rest (extent c rest).1 (extent c rest).2 := reads_of_extent rfl
    rw [show (extent c rest).1 = .ident from ident] at reads
    exact startsFresh_of_reads reads
  closed := by
    intro token member units more quote
    rw [quoted_token member quote, tokenAt, extent_closed (stringExtent_units units more)]
    exact ⟨rfl, by dsimp only; omega⟩
  unclosed := by
    intro token member rest quote never
    have alone : stringExtent rest = none := by
      by_contra read
      obtain ⟨count, read⟩ := Option.ne_none_iff_exists'.1 read
      obtain ⟨units, more, split, -⟩ := stringExtent_eq_some_iff.1 read
      exact never units more split
    rw [quoted_token member quote, tokenAt, extent_unclosed alone]
    exact ⟨rfl, rfl⟩

theorem tokenize_partitions_quoted :
    let text := "'a_1 \"x\\\"y\" \"\\"
    let word : Token := ⟨.ident, "'a_1", 0, 4⟩
    let string : Token := ⟨.string, "\"x\\\"y\"", 5, 11⟩
    let quote : Token := ⟨.punct, "\"", 12, 13⟩
    tokenize text = [word, string, quote, ⟨.punct, "\\", 13, 14⟩] ∧
      StartsFresh (text.toList.drop word.stop) ∧
      (string.kind = .string ∧ string.stop = string.start + 4 + 2) ∧
      quote.kind = .punct ∧ quote.stop = quote.start + 1 := by
  intro text word string quote
  have tokens : tokenize text = [word, string, quote, ⟨.punct, "\\", 13, 14⟩] := by decide +kernel
  have parts := tokenize_partitions text
  have alone : ∀ (units : List StringUnit) (more : List Char),
      ['\\'] ≠ units.flatMap StringUnit.written ++ doubleQuote :: more := by
    intro units more split
    have read := stringExtent_units units more
    rw [← split] at read
    cases read
  have closed : text.toList.drop string.start =
      '"' :: 'x' :: '\\' :: '"' :: 'y' :: '"' :: [' ', '"', '\\'] := by decide
  have unclosed : text.toList.drop quote.start = ['"', '\\'] := by decide
  refine ⟨tokens, parts.maximal word (by simp [tokens]) rfl, ?_, ?_⟩
  · exact parts.closed string (by simp [tokens])
      [.plain 'x' (by decide), .escaped '"', .plain 'y' (by decide)] _ closed
  · exact parts.unclosed quote (by simp [tokens]) _ unclosed alone

end RecordProjection.Directive
