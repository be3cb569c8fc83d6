import RecordProjection.Markup.Element
import RecordProjection.Record
import RecordProjection.Registry.Fault
import RecordProjection.Text.Character
import RecordProjection.Text.Identifier

/-!
Reading records from the elements of a registry. Elements and attributes that mean nothing here are
passed over; an attribute that is missing has a value of its own where one is given, and is a fault
where none is.
-/

namespace RecordProjection

open Markup Text

def annotationsOf (element : Element) : List String :=
  (element.childrenTagged "annotation").map fun child => trim child.text

def Generic.ofElement (element : Element) : Generic :=
  ⟨(element.attribute? "name").getD "", element.attribute? "bounds"⟩

def namelessLabel : String := "<positional>"

def Field.ofElement (record : String) (element : Element) : Except RegistryFault Field :=
  let type := (element.attribute? "type").getD ""
  if type.isEmpty then
    .error (.missingType record ((element.attribute? "name").getD namelessLabel))
  else
    .ok {
      name := element.attribute? "name"
      visibility := (element.attribute? "visibility").getD ""
      type
      annotations := annotationsOf element }

def looksNumeric (text : String) : Bool := !text.isEmpty && text.toList.all isDigitLike

def indexOf (record key : String) (element : Element) : Except RegistryFault Int :=
  let value := (element.attribute? key).getD ""
  if looksNumeric value then
    match readNumeral value with
    | .ok number => .ok number
    | .error cause => .error (.unreadableIndex cause)
  else .error (.invalidIndex record element.tag key value)

def keptOf (record : String) (element : Element) : Except RegistryFault (Int × Int) := do
  let sourceIndex ← indexOf record "source-index" element
  let index ← indexOf record "index" element
  return (sourceIndex, index)

def ConversionArgument.ofElement (record : String) (element : Element) :
    Except RegistryFault ConversionArgument := do
  let sourceIndex ← indexOf record "source-index" element
  return {
    sourceIndex
    name := (element.attribute? "name").getD ""
    type := (element.attribute? "type").getD "" }

def ConversionPlan.ofElement (record : String) (element : Element) :
    Except RegistryFault ConversionPlan := do
  let source := (element.attribute? "from").getD ""
  let method := (element.attribute? "method").getD ""
  if source.isEmpty || method.isEmpty then .error (.incompleteConversion record)
  else
    let kept ← (element.childrenTagged "keep").mapM (keptOf record)
    let arguments ← (element.childrenTagged "argument").mapM (ConversionArgument.ofElement record)
    return { source, method, kept, arguments }

def Record.ofElement (element : Element) : Except RegistryFault Record := do
  let name := (element.attribute? "name").getD ""
  if isName name then
    let fields ← (element.childrenTagged "field").mapM (Field.ofElement name)
    let conversion ← (element.childTagged? "conversion").mapM (ConversionPlan.ofElement name)
    return {
      name
      kind := (element.attribute? "kind").getD projectableKind
      generics := (element.childrenTagged "generic").map Generic.ofElement
      annotations := annotationsOf element
      fields
      conversion }
  else .error (.invalidName name)

def recordsOf (root : Element) : Except RegistryFault (List Record) :=
  if root.tag = "records" then (root.childrenTagged "record").mapM Record.ofElement
  else .error (.wrongRoot root.tag)

end RecordProjection
