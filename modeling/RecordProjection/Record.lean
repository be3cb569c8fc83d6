/-!
Annotated records, as a registry delivers them. Type expressions, bounds and annotations are opaque
texts here; annotations keep the order in which they were written.
-/

namespace RecordProjection

structure Generic where
  name : String
  bounds : Option String := none
deriving DecidableEq, Repr

structure Field where
  /-- A field without a name is known by its position. -/
  name : Option String
  /-- The visibility as written, empty for a private field. -/
  visibility : String := ""
  type : String
  annotations : List String := []
deriving DecidableEq, Repr

structure ConversionArgument where
  sourceIndex : Int
  name : String
  type : String
deriving DecidableEq, Repr

structure ConversionPlan where
  source : String
  method : String
  /-- The index in the source and in the projection of every field that is kept. -/
  kept : List (Int × Int)
  /-- What the conversion asks for, in the order of the source. -/
  arguments : List ConversionArgument
deriving DecidableEq, Repr

structure Record where
  name : String
  kind : String := "struct"
  generics : List Generic := []
  annotations : List String := []
  fields : List Field := []
  /-- The plan of a record that is itself a projection. -/
  conversion : Option ConversionPlan := none
deriving DecidableEq, Repr

def projectableKind : String := "struct"

/-- What a field is called in its record: its name or its position. -/
def Field.label (field : Field) (index : Int) : String := field.name.getD (toString index)

def fieldLocation (record : String) (index : Int) (field : Field) : String :=
  record ++ "." ++ field.label index

def annotationLocation (owner : String) (position : Nat) : String :=
  s!"{owner} (annotation {position})"

end RecordProjection
