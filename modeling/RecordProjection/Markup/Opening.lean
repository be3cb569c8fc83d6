import RecordProjection.Markup.Element
import RecordProjection.Markup.Namespace
import RecordProjection.Markup.Tag
import RecordProjection.Markup.Value

/-!
What a start tag opens: an element with its full name and the full names and values of its
attributes, among them those that the document declares and the tag leaves out.
-/

namespace RecordProjection.Markup

structure ReadAttributes where
  seen : List (List Char) := []
  /-- Written names and values, without the bindings of namespaces. -/
  values : List (List Char × List Char) := []
  scope : Scope

/-- Adds an attribute; one that binds a namespace changes the scope instead. -/
def ReadAttributes.add (read : ReadAttributes) (name value : List Char) :
    Except FaultKind ReadAttributes :=
  match boundQualifier? name with
  | some qualifier =>
    match read.scope.bind qualifier value with
    | .error kind => .error kind
    | .ok scope => .ok { read with seen := name :: read.seen, scope }
  | none => .ok { read with seen := name :: read.seen, values := read.values ++ [(name, value)] }

/-- The attributes that a tag mentions. Faults without a place of their own are at `start`. -/
def readAttributes (declarations : Declarations) (usable : List Entity) (start : List Char)
    (element : List Char) (read : ReadAttributes) : List RawAttribute → Except Mishap ReadAttributes
  | [] => .ok read
  | raw :: rest =>
    if read.seen.contains raw.name then .error ⟨.duplicateAttribute, raw.place⟩
    else
      let tokenized := (declarations.attribute? element raw.name).elim false (·.tokenized)
      match attributeValue declarations usable tokenized raw.value with
      | .error fault => .error (fault.mishap raw.valuePlace raw.value.length start)
      | .ok value =>
        match read.add raw.name value with
        | .error kind => .error ⟨kind, start⟩
        | .ok read => readAttributes declarations usable start element read rest

def impliedAttributes (element : List Char) (read : ReadAttributes) :
    List AttributeDeclaration → Except FaultKind ReadAttributes
  | [] => .ok read
  | declared :: rest =>
    match declared.implied with
    | some value =>
      if declared.element = element && !read.seen.contains declared.name then
        match read.add declared.name value with
        | .error kind => .error kind
        | .ok read => impliedAttributes element read rest
      else impliedAttributes element read rest
    | none => impliedAttributes element read rest

/-- Full names for written ones. No two qualified names may turn out to be the same. -/
def fullNames (scope : Scope) (known : List (List Char)) :
    List (List Char × List Char) → Except FaultKind (List (String × String))
  | [] => .ok []
  | (name, value) :: rest =>
    match scope.attributeName? name with
    | none => .error .unboundQualifier
    | some full =>
      if known.contains full then .error .duplicateAttribute
      else
        match fullNames scope (full :: known) rest with
        | .error kind => .error kind
        | .ok others => .ok ((.ofList full, .ofList value) :: others)

structure OpenElement where
  name : List Char
  tag : String
  attributes : List (String × String)
  scope : Scope
  /-- The text before the first child, last character first. -/
  text : List Char := []
  /-- The last child first. -/
  children : List Element := []

def OpenElement.element (opened : OpenElement) : Element where
  tag := opened.tag
  attributes := opened.attributes
  text := .ofList opened.text.reverse
  children := opened.children.reverse

def OpenElement.addText (opened : OpenElement) (text : List Char) : OpenElement :=
  if opened.children.isEmpty then { opened with text := text.reverse ++ opened.text } else opened

def OpenElement.addChild (opened : OpenElement) (child : Element) : OpenElement :=
  { opened with children := child :: opened.children }

def StartTag.opened (tag : StartTag) (declarations : Declarations) (usable : List Entity)
    (scope : Scope) (start : List Char) : Except Mishap OpenElement :=
  match readAttributes declarations usable start tag.name { scope } tag.attributes with
  | .error mishap => .error mishap
  | .ok read =>
    match impliedAttributes tag.name read declarations.attributes with
    | .error kind => .error ⟨kind, start⟩
    | .ok read =>
      match fullNames read.scope [] read.values with
      | .error kind => .error ⟨kind, start⟩
      | .ok attributes =>
        match read.scope.elementName? tag.name with
        | none => .error ⟨.unboundQualifier, start⟩
        | some full =>
          .ok { name := tag.name, tag := .ofList full, attributes, scope := read.scope }

end RecordProjection.Markup
