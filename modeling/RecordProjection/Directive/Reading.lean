import RecordProjection.Directive.Declared
import RecordProjection.Directive.Override
import RecordProjection.Record

/-!
The directives of a record and its fields. Every directive is read by itself and remembers where it
stands, so the diagnostics of a list of annotations are those of its directives in order.
-/

namespace RecordProjection

open Directive

structure Located (α : Type) where
  location : String
  reading : Except Malformation α

namespace Located

def values {α : Type} (directives : List (Located α)) : List α :=
  directives.filterMap fun directive => directive.reading.toOption

def isMalformed {α : Type} (directive : Located α) : Bool :=
  match directive.reading with
  | .ok _ => false
  | .error _ => true

def diagnostics {α : Type} (declared : Option Declared) (names : α → List String)
    (directive : Located α) : List Diagnostic :=
  match directive.reading with
  | .ok value => unknownTargets declared directive.location (names value)
  | .error cause => [.malformed cause directive.location]

end Located

def directivesOf {α : Type} (owner : String) (annotations : List String)
    (read : DirectiveKind → String → Option (Except Malformation α)) : List (Located α) :=
  annotations.zipIdx.filterMap fun (note, position) => do
    let kind ← directiveKind? note
    let reading ← read kind note
    return ⟨annotationLocation owner position, reading⟩

def passthrough (annotations : List String) : List String :=
  annotations.filter fun note => !isDirective note

def Override.names (override : Override) : List String := override.selector.names.eraseDups

namespace Record

def nameLists (record : Record) : List (Located (List NameEntry)) :=
  directivesOf record.name record.annotations fun kind note =>
    match kind with
    | .membership => some (declaredNames note)
    | .override => none

/-- The names that are declared: none unless there is a list and every list is well formed. -/
def declared (record : Record) : Option Declared :=
  let lists := record.nameLists
  if lists.isEmpty || lists.any Located.isMalformed then none
  else some (.ofEntries record.name (Located.values lists).flatten)

def overrideDirectives (record : Record) : List (Located Override) :=
  directivesOf record.name record.annotations fun kind note =>
    match kind with
    | .membership => none
    | .override => some (override note)

def undeclaredDiagnostics (record : Record) : List Diagnostic :=
  if record.nameLists.isEmpty then [.malformed (.undeclared record.name) record.name] else []

def ownDiagnostics (record : Record) : List Diagnostic :=
  record.nameLists.flatMap (Located.diagnostics none fun _ => []) ++
    record.undeclaredDiagnostics ++
    record.overrideDirectives.flatMap (Located.diagnostics record.declared Override.names)

end Record

inductive FieldDirective
  | membership (entries : Membership)
  | override (override : Override)

def FieldDirective.names : FieldDirective → List String
  | .membership list => list.names
  | .override added => added.names

structure ParsedField where
  index : Int
  field : Field
  membership : Membership
  overrides : List Override
  passthrough : List String

namespace Field

def directives (field : Field) (record : String) (index : Int) : List (Located FieldDirective) :=
  directivesOf (fieldLocation record index field) field.annotations fun kind note =>
    match kind with
    | .membership => some (FieldDirective.membership <$> membership note)
    | .override => some (FieldDirective.override <$> override note)

/-- Malformed directives count for nothing. -/
def parse (field : Field) (record : String) (index : Int) : ParsedField :=
  let directives := Located.values (field.directives record index)
  { index
    field
    membership := directives.flatMap fun
      | .membership entries => entries
      | .override _ => []
    overrides := directives.filterMap fun
      | .membership _ => none
      | .override override => some override
    passthrough := passthrough field.annotations }

def diagnostics (field : Field) (record : String) (index : Int) (declared : Option Declared) :
    List Diagnostic :=
  (field.directives record index).flatMap (Located.diagnostics declared FieldDirective.names)

end Field

/-- A record with its directives taken apart. Without declared names nothing is projected, but the
fields are still read. -/
structure ParsedRecord where
  record : Record
  declared : Option Declared
  overrides : List Override
  passthrough : List String
  fields : List ParsedField

namespace Record

def indexedFields (record : Record) : List (Field × Int) :=
  record.fields.zipIdx.map fun (field, index) => (field, Int.ofNat index)

def parse (record : Record) : ParsedRecord where
  record
  declared := record.declared
  overrides := Located.values record.overrideDirectives
  passthrough := RecordProjection.passthrough record.annotations
  fields := record.indexedFields.map fun (field, index) => field.parse record.name index

def kindDiagnostics (record : Record) : List Diagnostic :=
  if record.kind = projectableKind then [] else [.unsupportedKind record.kind record.name]

def directiveDiagnostics (record : Record) : List Diagnostic :=
  record.kindDiagnostics ++ record.ownDiagnostics ++
    record.indexedFields.flatMap fun (field, index) =>
      field.diagnostics record.name index record.declared

def usesDirectives (record : Record) : Bool :=
  record.annotations.any isDirective ||
    record.fields.any fun field => field.annotations.any isDirective

end Record

end RecordProjection
