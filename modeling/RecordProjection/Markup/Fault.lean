import RecordProjection.Text.Character

/-!
What can be wrong with a document, and where. Inside the reader a place is given by the text from it
on; a fault names the line and the column of that place.
-/

namespace RecordProjection.Markup

inductive FaultKind
  | noElement
  | invalidToken
  | unclosedToken
  | partialCharacter
  | mismatchedTag
  | duplicateAttribute
  | junkAfterRoot
  | illegalParameter
  | undefinedEntity
  | recursiveEntity
  | asynchronousEntity
  | badCharacterNumber
  | binaryEntity
  | externalEntityInAttribute
  | misplacedDeclaration
  | incorrectEncoding
  | foreignEncoding
  | unclosedLiteralSection
  | malformedDeclaration
  | unexpectedMarkup
  | unboundQualifier
  | undeclaredQualifier
  | reservedQualifierXml
  | reservedQualifierXmlns
  | reservedNamespace
  | illegalPublicId
  /-- Entities stand for too much text. -/
  | amplification
  /-- A reference to an entity whose declaration was not read. -/
  | unresolvedEntity (name : List Char)
deriving DecidableEq, Repr

def brokenCharacter : Char := '\uFFFD'

def takeOctets (count : Nat) : List Char → List Char
  | [] => []
  | c :: rest =>
    if c.utf8Size ≤ count then c :: takeOctets (count - c.utf8Size) rest
    else if count = 0 then [] else [brokenCharacter]

def shownReferenceSize : Nat := 100

def shownReference (name : List Char) : String :=
  .ofList (takeOctets shownReferenceSize ('&' :: name ++ [';']))

def FaultKind.message : FaultKind → String
  | noElement => "no element found"
  | invalidToken => "not well-formed (invalid token)"
  | unclosedToken => "unclosed token"
  | partialCharacter => "partial character"
  | mismatchedTag => "mismatched tag"
  | duplicateAttribute => "duplicate attribute"
  | junkAfterRoot => "junk after document element"
  | illegalParameter => "illegal parameter entity reference"
  | undefinedEntity => "undefined entity"
  | recursiveEntity => "recursive entity reference"
  | asynchronousEntity => "asynchronous entity"
  | badCharacterNumber => "reference to invalid character number"
  | binaryEntity => "reference to binary entity"
  | externalEntityInAttribute => "reference to external entity in attribute"
  | misplacedDeclaration => "XML or text declaration not at start of entity"
  | incorrectEncoding => "encoding specified in XML declaration is incorrect"
  | foreignEncoding => "unknown encoding"
  | unclosedLiteralSection => "unclosed CDATA section"
  | malformedDeclaration => "XML declaration not well-formed"
  | unexpectedMarkup => "syntax error"
  | unboundQualifier => "unbound prefix"
  | undeclaredQualifier => "must not undeclare prefix"
  | reservedQualifierXml =>
    "reserved prefix (xml) must not be undeclared or bound to another namespace name"
  | reservedQualifierXmlns => "reserved prefix (xmlns) must not be declared or undeclared"
  | reservedNamespace => "prefix must not be bound to one of the reserved namespace names"
  | illegalPublicId => "illegal character(s) in public id"
  | amplification => "limit on input amplification factor (from DTD and entities) breached"
  | unresolvedEntity name => s!"undefined entity {shownReference name}"

/-- A fault inside the reader, and the text from its place on. -/
structure Mishap where
  kind : FaultKind
  place : List Char
deriving DecidableEq, Repr

inductive Ending
  | complete
  | truncated
  | halfUnit
deriving DecidableEq, Repr

def Ending.insideMarkup : Ending → FaultKind
  | truncated => .partialCharacter
  | _ => .unclosedToken

def Ending.beforeRootEnd : Ending → FaultKind
  | complete => .noElement
  | truncated => .partialCharacter
  | halfUnit => .unclosedToken

inductive LookupFault
  | unknown (name : String)
  /-- What has the name is not from octets to texts. -/
  | notText (name : String)
deriving DecidableEq, Repr

def LookupFault.message : LookupFault → String
  | unknown name => s!"unknown encoding: {name}"
  | notText name =>
    s!"'{name}' is not a text encoding; use codecs.decode() to handle arbitrary codecs"

inductive CodecFault
  | multiByte
  | failing (name cause : String)
  | notAscii
deriving DecidableEq, Repr

def CodecFault.message : CodecFault → String
  | multiByte => "multi-byte encodings are not supported"
  | failing name cause => s!"decoding with '{name}' codec failed (UnicodeError: {cause})"
  | notAscii => "'ascii' codec can't decode byte 0x80 in position 82: ordinal not in range(128)"

inductive DocumentFault
  | malformed (kind : FaultKind) (line column : Nat)
  | lookup (fault : LookupFault)
  | codec (fault : CodecFault)
deriving DecidableEq, Repr

def DocumentFault.message : DocumentFault → String
  | malformed kind line column => s!"{kind.message}: line {line}, column {column}"
  | lookup fault => fault.message
  | codec fault => fault.message

/-- Line and column after a text, from a given line and column on. Lines count from one and columns
from zero; a carriage return with a line feed is one line end. -/
def advance (line column : Nat) : List Char → Nat × Nat
  | [] => (line, column)
  | '\r' :: '\n' :: rest => advance (line + 1) 0 rest
  | '\r' :: rest => advance (line + 1) 0 rest
  | '\n' :: rest => advance (line + 1) 0 rest
  | _ :: rest => advance line (column + 1) rest

def Mishap.locate (mishap : Mishap) (text : List Char) : DocumentFault :=
  let (line, column) := advance 1 0 (text.take (text.length - mishap.place.length))
  .malformed mishap.kind line column

end RecordProjection.Markup
