import RecordProjection.Markup.Element
import RecordProjection.Text.Character
import RecordProjection.Text.Display

/-!
Writing a tree of elements. Every child stands on a line of its own, two spaces further in than its
parent; an element without children keeps its text as it is. Line ends and tabs in attribute values
are written by number, since a reader would turn them into spaces.
-/

namespace RecordProjection.Markup

open Text

def escapeTextChar (c : Char) : List Char :=
  if c = '&' then "&amp;".toList
  else if c = '<' then "&lt;".toList
  else if c = '>' then "&gt;".toList
  else [c]

def escapeText (text : List Char) : List Char := text.flatMap escapeTextChar

def escapeValueChar (c : Char) : List Char :=
  if c = doubleQuote then "&quot;".toList
  else if c = '\r' then "&#13;".toList
  else if c = '\n' then "&#10;".toList
  else if c = '\t' then "&#09;".toList
  else escapeTextChar c

def escapeValue (value : List Char) : List Char := value.flatMap escapeValueChar

def renderAttribute (pair : String × String) : List Char :=
  ' ' :: pair.1.toList ++ '=' :: doubleQuote :: escapeValue pair.2.toList ++ [doubleQuote]

def newLine (depth : Nat) : List Char := '\n' :: List.replicate (2 * depth) ' '

/-- What stands before the first of some children: the text, unless it is blank. -/
def leadText (depth : Nat) (text : String) : List Char :=
  if text.toList.all isBlank then newLine depth else escapeText text.toList

mutual

def Element.render (depth : Nat) : Element → List Char
  | ⟨tag, attributes, text, children⟩ =>
    let opening := '<' :: tag.toList ++ attributes.flatMap renderAttribute
    match children with
    | [] =>
      if text.isEmpty then opening ++ " />".toList
      else opening ++ '>' :: escapeText text.toList ++ "</".toList ++ tag.toList ++ ['>']
    | first :: others =>
      opening ++ '>' :: leadText (depth + 1) text ++ first.render (depth + 1) ++
        renderOthers (depth + 1) others ++ newLine depth ++ "</".toList ++ tag.toList ++ ['>']

def renderOthers (depth : Nat) : List Element → List Char
  | [] => []
  | element :: rest => newLine depth ++ element.render depth ++ renderOthers depth rest

end

def documentLine : String := "<?xml version=\"1.0\" encoding=\"utf-8\"?>\n"

def renderDocument (root : Element) : String :=
  .ofList (documentLine.toList ++ root.render 0 ++ ['\n'])

end RecordProjection.Markup
