import RecordProjection.Markup.Tag

/-!
The pieces that the content of an element is made of: characters, references, tags, and literal
sections. Comments and instructions are pieces without meaning. Line ends become line feeds.
-/

namespace RecordProjection.Markup

inductive Piece
  | char (c : Char)
  | reference (reference : Reference)
  | literal (data : List Char)
  | startTag (tag : StartTag)
  /-- The name in an end tag, and the text from it on. -/
  | endTag (name place : List Char)
  | remark
  /-- A declaration that only the start of a document may hold. -/
  | declaration
  | finish
  | fault (mishap : Mishap)
deriving DecidableEq, Repr

structure PlacedPiece where
  piece : Piece
  place : List Char
deriving DecidableEq, Repr

def scanMarkup (text : List Char) : Except Stop (Piece × List Char) :=
  match text with
  | '!' :: '-' :: '-' :: rest =>
    match scanComment rest with
    | .error stop => .error stop
    | .ok after => .ok (.remark, after)
  | '!' :: '-' :: rest => .error (stopAt rest)
  | '!' :: '[' :: rest =>
    if rest.length < literalWord.length then .error .incomplete
    else
      match scanWord literalWord rest with
      | .error stop => .error stop
      | .ok inner =>
        match scanLiteral inner with
        | .error stop => .error stop
        | .ok (data, after) => .ok (.literal data, after)
  | '!' :: rest => .error (stopAt rest)
  | '?' :: rest =>
    match scanTargeted rest with
    | .error stop => .error stop
    | .ok (declares, after) => .ok (if declares then .declaration else .remark, after)
  | '/' :: rest =>
    match scanEndTag rest with
    | .error stop => .error stop
    | .ok (name, after) => .ok (.endTag name rest, after)
  | text =>
    match scanStartTag text with
    | .error stop => .error stop
    | .ok (tag, after) => .ok (.startTag tag, after)

theorem scanMarkup_shorter {text rest : List Char} {piece : Piece}
    (read : scanMarkup text = .ok (piece, rest)) : rest.length < text.length := by
  unfold scanMarkup at read
  split at read
  · split at read
    · simp at read
    · rename_i found
      simp only [Except.ok.injEq, Prod.mk.injEq] at read
      have := scanComment_shorter found
      rw [← read.2]
      simp only [List.length_cons]
      omega
  · simp at read
  · split at read
    · simp at read
    · split at read
      · simp at read
      · rename_i word
        have := scanWord_le word
        split at read
        · simp at read
        · rename_i found
          simp only [Except.ok.injEq, Prod.mk.injEq] at read
          have := scanLiteral_shorter found
          rw [← read.2]
          simp only [List.length_cons]
          omega
  · simp at read
  · split at read
    · simp at read
    · rename_i found
      simp only [Except.ok.injEq, Prod.mk.injEq] at read
      have := scanTargeted_shorter found
      rw [← read.2]
      simp only [List.length_cons]
      omega
  · split at read
    · simp at read
    · rename_i found
      simp only [Except.ok.injEq, Prod.mk.injEq] at read
      have := scanEndTag_shorter found
      rw [← read.2]
      simp only [List.length_cons]
      omega
  · split at read
    · simp at read
    · rename_i found
      simp only [Except.ok.injEq, Prod.mk.injEq] at read
      have := scanStartTag_shorter found
      rw [← read.2]
      omega

def lastPiece (ending : Ending) (place : List Char) : PlacedPiece :=
  match ending with
  | .truncated => ⟨.fault ⟨.partialCharacter, []⟩, []⟩
  | .halfUnit =>
    if place.isEmpty then ⟨.fault ⟨.unclosedToken, []⟩, []⟩ else ⟨.finish, place⟩
  | .complete => ⟨.finish, place⟩

/-- The pieces of a text, up to its end or to the first fault. A carriage return at the very end is
where the content ends. -/
def pieces (ending : Ending) (text : List Char) : List PlacedPiece :=
  match text with
  | [] => [lastPiece ending []]
  | '<' :: rest =>
    match _read : scanMarkup rest with
    | .ok (piece, after) => ⟨piece, text⟩ :: pieces ending after
    | .error stop => [⟨.fault (stop.mishap ending text), text⟩]
  | '&' :: rest =>
    match _read : scanReference rest with
    | .ok (reference, after) => ⟨.reference reference, text⟩ :: pieces ending after
    | .error stop => [⟨.fault (stop.mishap ending text), text⟩]
  | ['\r'] => [⟨.char '\n', text⟩, lastPiece ending text]
  | '\r' :: '\n' :: rest => ⟨.char '\n', text⟩ :: pieces ending rest
  | '\r' :: rest => ⟨.char '\n', text⟩ :: pieces ending rest
  | ']' :: ']' :: '>' :: rest => [⟨.fault ⟨.invalidToken, '>' :: rest⟩, text⟩]
  | c :: rest =>
    if isLegal c then ⟨.char c, text⟩ :: pieces ending rest
    else [⟨.fault ⟨.invalidToken, text⟩, text⟩]
termination_by text.length
decreasing_by
  all_goals
    first
    | (have shorter := scanMarkup_shorter _read; simp only [List.length_cons]; omega)
    | (have shorter := scanReference_shorter _read; simp only [List.length_cons]; omega)
    | (simp only [List.length_cons]; omega)

end RecordProjection.Markup
