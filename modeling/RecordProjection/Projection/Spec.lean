import RecordProjection.Directive.Reading
import RecordProjection.Projection.Generics

/-!
What a record projects to: for every projection to create, the fields that are part of it, in the
order of the record, and the generic parameters they use. Every projection has to use all of the
record's parameters.
-/

namespace RecordProjection

structure ProjectionSpec where
  name : String
  fields : List ParsedField
  generics : List Generic

/-- The names that occur again after the first time, once for each further occurrence. -/
def repetitions (seen : List String) : List String → List String
  | [] => []
  | name :: rest =>
    if seen.contains name then name :: repetitions seen rest
    else repetitions (name :: seen) rest

namespace ParsedRecord

def members (parsed : ParsedRecord) (projection : String) : List ParsedField :=
  parsed.fields.filter fun field => field.membership.includes projection

def genericsOf (parsed : ParsedRecord) (projection : String) : List Generic :=
  usedGenerics parsed.record.generics
    ((parsed.members projection).map fun field => field.field.type)

def projections (parsed : ParsedRecord) : List ProjectionSpec :=
  match parsed.declared with
  | none => []
  | some declared => declared.projections.map fun name =>
      { name, fields := parsed.members name, generics := parsed.genericsOf name }

def unusedGenerics (parsed : ParsedRecord) (projection : String) : List Diagnostic :=
  let used := (parsed.genericsOf projection).map Generic.name
  (parsed.record.generics.filter fun generic => !used.contains generic.name).map fun generic =>
    .unusedGeneric projection generic.name parsed.record.name

def projectionDiagnostics (parsed : ParsedRecord) : List Diagnostic :=
  match parsed.declared with
  | none => []
  | some declared =>
    ((repetitions [] declared.entries).map fun name =>
      .duplicateProjection name parsed.record.name) ++
      declared.projections.flatMap parsed.unusedGenerics

end ParsedRecord

end RecordProjection
