import RecordProjection.Projection.Definition

/-!
What holds of every definition that is emitted for a record: one index for each field, in the order
of the record and within it, fields that agree with the record in name and type, every generic
parameter in use declared, and no directive left.
-/

namespace RecordProjection

open Directive

inductive InvariantFault
  | countMismatch (definition : String)
  | outOfOrder (definition : String)
  | outOfRange (definition : String) (index : Int)
  | differs (definition : String) (index : Int)
  | undeclaredGeneric (definition parameter : String)
  | directiveLeft (definition note : String)
  /-- Nothing can be emitted for a record that declares no names. -/
  | nothingDeclared (record : String)
deriving DecidableEq, Repr

def InvariantFault.message : InvariantFault → String
  | countMismatch definition => s!"{definition}: field/index count mismatch"
  | outOfOrder definition => s!"{definition}: fields are not in source order"
  | outOfRange definition index => s!"{definition}: field index {index} out of range"
  | differs definition index => s!"{definition}: field {index} differs from source"
  | undeclaredGeneric definition parameter =>
    s!"{definition}: generic parameter {parameter} used but not declared"
  | directiveLeft definition note => s!"{definition}: directive `{note}` survived"
  | nothingDeclared record => s!"{record}: cannot emit definitions without a declared list"

def isIncreasing : List Int → Bool
  | first :: second :: rest => first < second && isIncreasing (second :: rest)
  | _ => true

def Record.fieldAt? (record : Record) (index : Int) : Option Field :=
  if index < 0 then none else record.fields[index.toNat]?

namespace Definition

def fieldFault? (definition : Definition) (record : Record) (index : Int) (field : Field) :
    Option InvariantFault :=
  match record.fieldAt? index with
  | none => some (.outOfRange definition.name index)
  | some original =>
    if field.name = original.name && field.type = original.type then none
    else some (.differs definition.name index)

def allAnnotations (definition : Definition) : List String :=
  definition.annotations ++ definition.fields.flatMap Field.annotations

/-- The first way in which a definition fails to be one of the record. -/
def fault? (definition : Definition) (record : Record) : Option InvariantFault :=
  let declared := definition.generics.map Generic.name
  let used := usedGenerics record.generics (definition.fields.map Field.type)
  if definition.sourceIndices.length ≠ definition.fields.length then
    some (.countMismatch definition.name)
  else if !isIncreasing definition.sourceIndices then some (.outOfOrder definition.name)
  else
    ((definition.sourceIndices.zip definition.fields).findSome? fun (index, field) =>
      definition.fieldFault? record index field) <|>
    ((used.find? fun generic => !declared.contains generic.name).map fun generic =>
      .undeclaredGeneric definition.name generic.name) <|>
    ((definition.allAnnotations.find? isDirective).map fun note =>
      .directiveLeft definition.name note)

end Definition

def ParsedRecord.emit (parsed : ParsedRecord) (specs : List ProjectionSpec) :
    Except InvariantFault (List Definition) :=
  match parsed.declared with
  | none => .error (.nothingDeclared parsed.record.name)
  | some _ =>
    let definitions := parsed.sourceDefinition :: specs.map parsed.projectionDefinition
    match definitions.findSome? fun definition => definition.fault? parsed.record with
    | some fault => .error fault
    | none => .ok definitions

end RecordProjection
