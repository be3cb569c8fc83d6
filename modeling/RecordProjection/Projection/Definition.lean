import RecordProjection.Projection.Annotations
import RecordProjection.Projection.Spec
import RecordProjection.Text.Case

/-!
Definitions: the records that are emitted for a source record, first the record itself and then its
projections, with their final annotations. A projection carries the plan by which it is converted
back: what it keeps of the source, and what has to be supplied.
-/

namespace RecordProjection

structure Definition where
  name : String
  kind : String := "struct"
  generics : List Generic := []
  annotations : List String := []
  fields : List Field := []
  sourceIndices : List Int
  conversion : Option ConversionPlan := none
deriving DecidableEq, Repr

def Definition.fieldNames (definition : Definition) : List String :=
  (definition.sourceIndices.zip definition.fields).map fun (index, field) => field.label index

def conversionMethod (source : String) : String := "into_" ++ Text.snakeCase source

def argumentName (field : Field) (index : Int) : String := field.name.getD s!"arg{index}"

def positions (length : Nat) : List Int := (List.range length).map Int.ofNat

/-- The plan for a projection: it keeps the fields of the projection and asks for all others. -/
def conversionPlan (record : Record) (fields : List ParsedField) : ConversionPlan :=
  let kept := fields.map ParsedField.index
  { source := record.name
    method := conversionMethod record.name
    kept := kept.zip (positions kept.length)
    arguments := (record.indexedFields.filter fun (_, index) => !kept.contains index).map
      fun (field, index) => ⟨index, argumentName field index, field.type⟩ }

def ParsedField.emit (field : ParsedField) (target : String) : Field :=
  { field.field with annotations := field.annotationsIn target }

def ParsedRecord.sourceDefinition (parsed : ParsedRecord) : Definition :=
  let record := parsed.record
  { name := record.name
    kind := record.kind
    generics := record.generics
    annotations := parsed.annotationsIn record.name
    fields := parsed.fields.map fun field => field.emit record.name
    sourceIndices := parsed.fields.map ParsedField.index
    conversion := record.conversion }

def ParsedRecord.projectionDefinition (parsed : ParsedRecord) (spec : ProjectionSpec) :
    Definition :=
  { name := spec.name
    kind := parsed.record.kind
    generics := spec.generics
    annotations := parsed.annotationsIn spec.name
    fields := spec.fields.map fun field => field.emit spec.name
    sourceIndices := spec.fields.map ParsedField.index
    conversion := some (conversionPlan parsed.record spec.fields) }

def Record.unchanged (record : Record) : Definition where
  name := record.name
  kind := record.kind
  generics := record.generics
  annotations := record.annotations
  fields := record.fields
  sourceIndices := positions record.fields.length
  conversion := record.conversion

end RecordProjection
