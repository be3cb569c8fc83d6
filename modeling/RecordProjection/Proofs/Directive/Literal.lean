import RecordProjection.Directive.Documentation
import RecordProjection.Proofs.Directive.Lexeme

/-! Documentation texts in writing. The literal of a text is a single token whatever the text is
made of, and the text inside of it is the text that was written. -/

namespace RecordProjection.Directive
open Text

def literal (text : String) : String :=
  .ofList (doubleQuote :: (escape text.toList ++ [doubleQuote]))

theorem escape_marked {c : Char} (marked : c = doubleQuote ∨ c = backslash) (rest : List Char) :
    escape (c :: rest) = backslash :: c :: escape rest := by
  rw [escape, List.flatMap_cons, if_pos (by simpa using marked)]
  rfl

theorem escape_plain {c : Char} (plain : ¬ (c = doubleQuote ∨ c = backslash)) (rest : List Char) :
    escape (c :: rest) = c :: escape rest := by
  rw [escape, List.flatMap_cons, if_neg (by simpa using plain)]
  rfl

theorem unescape_escaped {d : Char} (solid : d ≠ '\n') (rest : List Char) :
    unescape (backslash :: d :: rest) = d :: unescape rest := by
  rw [unescape, if_pos (by simpa using solid)]

theorem unescape_plain {c : Char} (plain : c ≠ backslash) (rest : List Char) :
    unescape (c :: rest) = c :: unescape rest := by
  cases rest with
  | nil => rfl
  | cons d rest => rw [unescape, if_neg (by simp [plain])]

theorem unescape_escape (text : List Char) : unescape (escape text) = text := by
  induction text with
  | nil => rfl
  | cons c rest ih =>
    by_cases marked : c = doubleQuote ∨ c = backslash
    · have solid : c ≠ '\n' := by
        rintro rfl
        revert marked
        decide
      rw [escape_marked marked, unescape_escaped solid, ih]
    · rw [escape_plain marked, unescape_plain (fun slash => marked (.inr slash)), ih]

theorem stringExtent_escape (text more : List Char) :
    stringExtent (escape text ++ doubleQuote :: more) = some ((escape text).length + 1) := by
  induction text with
  | nil => exact stringExtent_quote more
  | cons c rest ih =>
    by_cases marked : c = doubleQuote ∨ c = backslash
    · rw [escape_marked marked, List.cons_append, List.cons_append, stringExtent_escaped, ih]
      rfl
    · rw [escape_plain marked, List.cons_append,
        stringExtent_ordinary (fun quote => marked (.inl quote)) (fun slash => marked (.inr slash)),
        ih]
      rfl

theorem isLexeme_literal (text : String) : IsLexeme .string (literal text).toList := by
  refine ⟨doubleQuote, _, String.toList_ofList, by decide, ?_⟩
  rw [extent, if_pos rfl, stringExtent_escape, List.length_append]
  rfl

theorem unquote_literal (text : String) : unquote (literal text) = text := by
  rw [unquote, literal, String.toList_ofList, List.drop_one, List.tail_cons, List.dropLast_concat,
    unescape_escape, String.ofList_toList]

theorem isSolo_literal (text : String) : IsSolo (literal text) where
  unquoted := by
    intro same
    have length := congrArg (fun word => word.toList.length) same
    simp [literal] at length
  lexeme := ⟨.string, isLexeme_literal text⟩
  fresh := by
    intro c first
    rw [literal, String.toList_ofList] at first
    cases first
    decide
  closed := by
    intro c last
    rw [literal, String.toList_ofList, ← List.cons_append, List.getLast?_concat] at last
    cases last
    decide

end RecordProjection.Directive
