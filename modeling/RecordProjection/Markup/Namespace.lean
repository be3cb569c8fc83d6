import RecordProjection.Markup.Fault

/-!
Namespaces: qualifiers of names stand for addresses, which the attributes of an element bind for the
element and its content. A name without a qualifier is in the default namespace if there is one and
the name is that of an element. A name in a namespace is written with the address in braces.
-/

namespace RecordProjection.Markup

/-- Qualifiers and what they stand for, the latest binding first. The default namespace has the
empty qualifier, and the empty address where there is none. -/
abbrev Scope := List (List Char × List Char)

def qualifierXml : List Char := "xml".toList
def qualifierXmlns : List Char := "xmlns".toList
def namespaceXml : List Char := "http://www.w3.org/XML/1998/namespace".toList
def namespaceXmlns : List Char := "http://www.w3.org/2000/xmlns/".toList

def outerScope : Scope := [(qualifierXml, namespaceXml)]

def splitName (name : List Char) : Option (List Char) × List Char :=
  match name.dropWhile (· ≠ ':') with
  | _ :: rest => (some (name.takeWhile (· ≠ ':')), rest)
  | [] => (none, name)

def boundQualifier? (name : List Char) : Option (List Char) :=
  if name = qualifierXmlns then some []
  else
    match splitName name with
    | (some qualifier, rest) => if qualifier = qualifierXmlns then some rest else none
    | (none, _) => none

/-- Binds a qualifier to an address. Only the default namespace may be taken back, and the reserved
qualifiers and addresses belong to each other. -/
def Scope.bind (scope : Scope) (qualifier address : List Char) : Except FaultKind Scope :=
  if address.isEmpty && !qualifier.isEmpty then .error .undeclaredQualifier
  else if qualifier = qualifierXmlns then .error .reservedQualifierXmlns
  else if address.contains '}' then .error .unexpectedMarkup
  else if qualifier = qualifierXml && address ≠ namespaceXml then .error .reservedQualifierXml
  else if qualifier ≠ qualifierXml && address = namespaceXml then .error .reservedNamespace
  else if address = namespaceXmlns then .error .reservedNamespace
  else .ok ((qualifier, address) :: scope)

def inNamespace (address name : List Char) : List Char := '{' :: address ++ '}' :: name

def Scope.elementName? (scope : Scope) (name : List Char) : Option (List Char) :=
  match splitName name with
  | (some qualifier, rest) => (scope.lookup qualifier).map fun address => inNamespace address rest
  | (none, _) =>
    match scope.lookup [] with
    | none => some name
    | some address => some (if address.isEmpty then name else inNamespace address name)

def Scope.attributeName? (scope : Scope) (name : List Char) : Option (List Char) :=
  match splitName name with
  | (some qualifier, rest) => (scope.lookup qualifier).map fun address => inNamespace address rest
  | (none, _) => some name

end RecordProjection.Markup
