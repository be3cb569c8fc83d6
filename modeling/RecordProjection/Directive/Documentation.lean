import RecordProjection.Directive.Kind
import RecordProjection.Text.Display

/-!
Documentation texts. A text is written between double quotes, with a backslash before each quote and
each backslash; reading drops the backslashes again. A line feed keeps a backslash before it.
-/

namespace RecordProjection.Directive

open Text

def escape (text : List Char) : List Char :=
  text.flatMap fun c => if c = doubleQuote || c = backslash then [backslash, c] else [c]

def unescape : List Char → List Char
  | [] => []
  | [c] => [c]
  | c :: d :: rest =>
    if c = backslash && d ≠ '\n' then d :: unescape rest else c :: unescape (d :: rest)

/-- The text inside a literal, whatever its first and last characters are. -/
def unquote (literal : String) : String :=
  .ofList (unescape (literal.toList.drop 1).dropLast)

def documentation (text : String) : String :=
  .ofList (
    (documentationPath ++ " = ").toList ++ doubleQuote :: escape text.toList ++ [doubleQuote])

def isDocumentation (note : String) : Bool :=
  leadingPath note = some documentationPath

/-- Puts `replacement` where the first documentation stands, or first if there is none, and drops
all other documentation. -/
def replaceDocumentation (replacement : String) (annotations : List String) : List String :=
  let before := annotations.takeWhile fun note => !isDocumentation note
  let others := (annotations.drop before.length).filter fun note =>
    !isDocumentation note
  if annotations.any isDocumentation then before ++ replacement :: others
  else replacement :: annotations

def overrideDocumentation (text : Option String) (annotations : List String) : List String :=
  match text with
  | none => annotations
  | some text => replaceDocumentation (documentation text) annotations

end RecordProjection.Directive
