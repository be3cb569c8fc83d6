import RecordProjection.Markup.Scan

/-!
The declaration that a document may start with: its version, and optionally its encoding and whether
it stands alone. The parts have a fixed order.
-/

namespace RecordProjection.Markup

structure DocumentDeclaration where
  /-- The name of the encoding, and the text from it on. -/
  encoding : Option (List Char × List Char)
  standalone : Bool
deriving DecidableEq, Repr

structure DeclarationPart where
  name : List Char
  value : List Char
  namePlace : List Char
  valuePlace : List Char
deriving DecidableEq, Repr

def isValueChar (c : Char) : Bool := c.isAlphanum || c = '.' || c = '-' || c = '_'

def isPartNameChar (c : Char) : Bool := c.toNat < 0x80 && !isSpace c && c ≠ '='

/-- The part at the start of a text, if there is one, and what follows it; else the place where the
text is malformed. -/
def readPart (text : List Char) : Except (List Char) (Option (DeclarationPart × List Char)) :=
  match text with
  | [] => .ok none
  | c :: rest =>
    if !isSpace c then .error text
    else
      match skipSpaces rest with
      | [] => .ok none
      | named =>
        let name := named.takeWhile isPartNameChar
        let afterName := skipSpaces (named.dropWhile isPartNameChar)
        match afterName with
        | '=' :: rest =>
          if name.isEmpty then .error afterName
          else
            match skipSpaces rest with
            | [] => .error []
            | mark :: quoted =>
              if mark ≠ '\x22' && mark ≠ '\x27' then .error (mark :: quoted)
              else
                match quoted.dropWhile isValueChar with
                | [] => .error []
                | c :: rest =>
                  if c = mark then
                    .ok (some (⟨name, quoted.takeWhile isValueChar, named, quoted⟩, rest))
                  else .error (c :: rest)
        | other => .error other

def readStandalone (part : DeclarationPart) (rest : List Char) : Except (List Char) Bool :=
  if part.name ≠ "standalone".toList then .error part.namePlace
  else if part.value ≠ "yes".toList && part.value ≠ "no".toList then .error part.valuePlace
  else
    match skipSpaces rest with
    | [] => .ok (part.value = "yes".toList)
    | bad => .error bad

def readAfterVersion (text : List Char) : Except (List Char) DocumentDeclaration :=
  match readPart text with
  | .error place => .error place
  | .ok none => .ok ⟨none, false⟩
  | .ok (some (part, rest)) =>
    if part.name = "encoding".toList then
      if !(part.value.headD ' ').isAlpha then .error part.valuePlace
      else
        let encoding := some (part.value, part.valuePlace)
        match readPart rest with
        | .error place => .error place
        | .ok none => .ok ⟨encoding, false⟩
        | .ok (some (part, rest)) =>
          match readStandalone part rest with
          | .error place => .error place
          | .ok standalone => .ok ⟨encoding, standalone⟩
    else
      match readStandalone part rest with
      | .error place => .error place
      | .ok standalone => .ok ⟨none, standalone⟩

def readDeclaration (text : List Char) : Except (List Char) DocumentDeclaration :=
  match readPart text with
  | .error place => .error place
  | .ok none => .error text
  | .ok (some (part, rest)) =>
    if part.name = "version".toList then readAfterVersion rest else .error part.namePlace

def declarationOpening : List Char := "<?".toList ++ declarationTarget

def scanDocumentDeclaration (text : List Char) :
    Except Mishap (Option (DocumentDeclaration × List Char)) :=
  match text with
  | '<' :: '?' :: rest =>
    match scanTargeted rest with
    | .ok (true, after) =>
      let body := text.drop declarationOpening.length
      let inner := body.take (body.length - after.length - 2)
      match readDeclaration inner with
      | .ok declaration =>
        .ok (some ({ declaration with
          encoding := declaration.encoding.map fun (name, place) =>
            (name, body.drop (inner.length - place.length)) }, after))
      | .error place =>
        .error ⟨.malformedDeclaration, body.drop (inner.length - place.length)⟩
    | _ => .ok none
  | _ => .ok none

end RecordProjection.Markup
