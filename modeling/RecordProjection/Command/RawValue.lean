/-!
Values of which nothing is known yet, such as a selection of records before it is checked. Only
texts and lists are of use; of all others messages tell the kind.
-/

namespace RecordProjection.Command

inductive RawValue
  | missing
  | truth
  | whole
  | fraction
  | text (text : String)
  | list (items : List RawValue)
  | table
deriving Repr, Inhabited

namespace RawValue

def kind : RawValue → String
  | missing => "NoneType"
  | truth => "bool"
  | whole => "int"
  | fraction => "float"
  | text _ => "str"
  | list _ => "list"
  | table => "dict"

def ofTexts (texts : List String) : RawValue := .list (texts.map text)

def add (value item : RawValue) : RawValue :=
  match value with
  | .list items => .list (items ++ [item])
  | _ => .list [item]

end RawValue

end RecordProjection.Command
