import RecordProjection.Text.Character

/-!
Identifiers, names and paths. An identifier is made of ASCII letters, digits and underscores and
does not start with a digit. A name is an identifier that one line feed may follow. A path joins
identifiers by double colons.
-/

namespace RecordProjection.Text

def isIdentStart (c : Char) : Bool := c.isAlpha || c = '_'

def isIdentChar (c : Char) : Bool := c.isAlphanum || c = '_'

def isIdentifier : List Char → Bool
  | [] => false
  | c :: rest => isIdentStart c && rest.all isIdentChar

def chompNewline (text : List Char) : List Char :=
  if text.getLast? = some '\n' then text.dropLast else text

/-- An identifier, or an identifier and a line feed. -/
def isName (text : String) : Bool := isIdentifier (chompNewline text.toList)

def leadingIdent : List Char → Option (List Char × List Char)
  | [] => none
  | c :: rest =>
    if isIdentStart c then some (c :: rest.takeWhile isIdentChar, rest.dropWhile isIdentChar)
    else none

theorem leadingIdent_shorter {text ident rest : List Char}
    (read : leadingIdent text = some (ident, rest)) : rest.length < text.length := by
  cases text with
  | nil => simp [leadingIdent] at read
  | cons c tail =>
    by_cases start : isIdentStart c
    · simp only [leadingIdent, start, ↓reduceIte, Option.some.injEq, Prod.mk.injEq] at read
      have shorter := (List.dropWhile_suffix (l := tail) isIdentChar).length_le
      rw [← read.2]
      simp only [List.length_cons]
      omega
    · simp [leadingIdent, start] at read

def pathTail (text : List Char) : List Char :=
  match text with
  | ':' :: ':' :: rest =>
    match _read : leadingIdent rest with
    | some (ident, remaining) => ':' :: ':' :: ident ++ pathTail remaining
    | none => []
  | _ => []
termination_by text.length
decreasing_by
  have := leadingIdent_shorter _read
  simp only [List.length_cons]
  omega

/-- The longest path at the start of a text, after blanks. -/
def leadingPath (text : String) : Option String :=
  (leadingIdent (trimLeft text.toList)).map fun (ident, rest) => .ofList (ident ++ pathTail rest)

end RecordProjection.Text
