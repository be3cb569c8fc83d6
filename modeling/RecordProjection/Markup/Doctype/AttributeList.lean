import RecordProjection.Markup.Doctype.Token

/-!
Declarations of the attributes of an element, read token by token.
-/

namespace RecordProjection.Markup

inductive AttributeStep
  | opened
  | between (element : List Char)
  | named (element name : List Char)
  | choice (element name : List Char) (namesOnly : Bool)
  /-- A further alternative, or the end of the list, is next. -/
  | chosen (element name : List Char) (namesOnly : Bool)
  | listed (element name : List Char)
  | typed (element name : List Char) (tokenized : Bool)
  | fixed (element name : List Char) (tokenized : Bool)
deriving DecidableEq, Repr

def tokenTypes : List String :=
  ["ID", "IDREF", "IDREFS", "ENTITY", "ENTITIES", "NMTOKEN", "NMTOKENS"]

def Declarations.addDefault (declarations : Declarations) (placed : PlacedToken)
    (element name : List Char) (tokenized : Bool) (text : List Char) :
    Except Mishap (Declarations × Option AttributeStep) :=
  if declarations.skipping then .ok (declarations, some (.between element))
  else
    match attributeValue declarations declarations.entities tokenized text with
    | .error fault => .error (placed.valueMishap text fault)
    | .ok value =>
      .ok (declarations.addAttribute ⟨element, name, some value, tokenized⟩,
        some (.between element))

/-- Reads one more token; no step is left when the declaration is complete. -/
def AttributeStep.next (declarations : Declarations) (step : AttributeStep) (placed : PlacedToken) :
    Except Mishap (Declarations × Option AttributeStep) :=
  match step, placed.token with
  | .opened, .word kind element =>
    if kind = .token then .error placed.unexpected
    else .ok (declarations, some (.between element))
  | .between _, .close => .ok (declarations, none)
  | .between element, .word kind name =>
    if kind = .token then .error placed.unexpected
    else .ok (declarations, some (.named element name))
  | .named element name, .parenOpen => .ok (declarations, some (.choice element name false))
  | .named element name, token =>
    if token.isKeyword "CDATA" then .ok (declarations, some (.typed element name false))
    else if tokenTypes.any token.isKeyword then .ok (declarations, some (.typed element name true))
    else if token.isKeyword "NOTATION" then .ok (declarations, some (.listed element name))
    else .error placed.unexpected
  | .listed element name, .parenOpen => .ok (declarations, some (.choice element name true))
  | .choice element name namesOnly, .word kind _ =>
    if namesOnly && kind ≠ .name then .error placed.unexpected
    else .ok (declarations, some (.chosen element name namesOnly))
  | .chosen element name namesOnly, .bar =>
    .ok (declarations, some (.choice element name namesOnly))
  | .chosen element name _, .parenClose none => .ok (declarations, some (.typed element name true))
  | .typed element name tokenized, .hashName text =>
    if text = "IMPLIED".toList || text = "REQUIRED".toList then
      .ok (declarations.addAttribute ⟨element, name, none, tokenized⟩, some (.between element))
    else if text = "FIXED".toList then .ok (declarations, some (.fixed element name tokenized))
    else .error placed.unexpected
  | .typed element name tokenized, .literal text =>
    declarations.addDefault placed element name tokenized text
  | .fixed element name tokenized, .literal text =>
    declarations.addDefault placed element name tokenized text
  | _, _ => .error placed.unexpected

end RecordProjection.Markup
