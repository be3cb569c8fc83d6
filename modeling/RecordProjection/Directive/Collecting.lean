import RecordProjection.Directive.Reading

/-!
Directives read in passing, one annotation after the other. What is wrong is added at once to the
diagnostics that were collected before, and what a directive says to what was read before.
-/

namespace RecordProjection

open Directive

/-- The names that are declared; each of the others is reported. Without a declaration there is
nothing to check against. -/
def checkTargets (declared : Option Declared) (location : String) (names : List String)
    (diagnostics : List Diagnostic) : List String × List Diagnostic :=
  match declared with
  | none => (names, diagnostics)
  | some declared =>
    names.foldl (fun (known, diagnostics) name =>
      if declared.isKnown name then (known ++ [name], diagnostics)
      else (known, diagnostics ++ [.unknownTarget name location])) ([], diagnostics)

structure OverrideReading where
  diagnostics : List Diagnostic
  overrides : List Override := []
  passthrough : List String := []

namespace OverrideReading

def report (reading : OverrideReading) (diagnostic : Diagnostic) : OverrideReading :=
  { reading with diagnostics := reading.diagnostics ++ [diagnostic] }

/-- Checks the names of an override and keeps the override, whatever the check has found. -/
def readOverride (declared : Option Declared) (location note : String)
    (reading : OverrideReading) : OverrideReading :=
  match override note with
  | .error cause => reading.report (.malformed cause location)
  | .ok added =>
    let (_, diagnostics) := checkTargets declared location added.names reading.diagnostics
    { reading with diagnostics, overrides := reading.overrides ++ [added] }

def pass (reading : OverrideReading) (note : String) : OverrideReading :=
  { reading with passthrough := reading.passthrough ++ [note] }

def step (owner : String) (declared : Option Declared) (reading : OverrideReading)
    (numbered : String × Nat) : OverrideReading :=
  let (note, position) := numbered
  match directiveKind? note with
  | some .membership => reading
  | some .override => reading.readOverride declared (annotationLocation owner position) note
  | none => reading.pass note

end OverrideReading

structure FieldReading extends OverrideReading where
  membership : Membership := []

namespace FieldReading

def readMembership (declared : Option Declared) (location note : String)
    (reading : FieldReading) : FieldReading :=
  match Directive.membership note with
  | .error cause =>
    { reading with toOverrideReading := reading.report (.malformed cause location) }
  | .ok entries =>
    let (_, diagnostics) := checkTargets declared location entries.names reading.diagnostics
    { reading with diagnostics, membership := reading.membership ++ entries }

def step (owner : String) (declared : Option Declared) (reading : FieldReading)
    (numbered : String × Nat) : FieldReading :=
  let (note, position) := numbered
  let location := annotationLocation owner position
  match directiveKind? note with
  | some .membership => reading.readMembership declared location note
  | some .override =>
    { reading with toOverrideReading := reading.readOverride declared location note }
  | none => { reading with toOverrideReading := reading.pass note }

end FieldReading

def Field.collect (field : Field) (record : String) (index : Int) (declared : Option Declared)
    (diagnostics : List Diagnostic) : ParsedField × List Diagnostic :=
  let owner := fieldLocation record index field
  let reading := field.annotations.zipIdx.foldl (FieldReading.step owner declared) { diagnostics }
  ({ index
     field
     membership := reading.membership
     overrides := reading.overrides
     passthrough := reading.passthrough }, reading.diagnostics)

structure ListReading where
  diagnostics : List Diagnostic
  entries : List String := []
  documentation : List (String × String) := []
  found : Bool := false
  malformed : Bool := false

namespace ListReading

def step (owner : String) (reading : ListReading) (numbered : String × Nat) : ListReading :=
  let (note, position) := numbered
  match directiveKind? note with
  | some .membership =>
    match declaredNames note with
    | .error cause =>
      let diagnostic := .malformed cause (annotationLocation owner position)
      { reading with
        diagnostics := reading.diagnostics ++ [diagnostic], found := true, malformed := true }
    | .ok entries =>
      { reading with
        entries := reading.entries ++ entries.map NameEntry.name
        documentation := entries.foldl Declared.addDocumentation reading.documentation
        found := true }
  | _ => reading

def declared (reading : ListReading) (source : String) : Option Declared :=
  if reading.found && !reading.malformed then
    some { source, entries := reading.entries, documentation := reading.documentation }
  else none

def finish (reading : ListReading) (source : String) : List Diagnostic :=
  if reading.found then reading.diagnostics
  else reading.diagnostics ++ [.malformed (.undeclared source) source]

end ListReading

namespace Record

def collectLists (record : Record) (diagnostics : List Diagnostic) : ListReading :=
  record.annotations.zipIdx.foldl (ListReading.step record.name) { diagnostics }

def collectOverrides (record : Record) (declared : Option Declared)
    (diagnostics : List Diagnostic) : OverrideReading :=
  record.annotations.zipIdx.foldl (OverrideReading.step record.name declared) { diagnostics }

def collect (record : Record) (diagnostics : List Diagnostic) :
    Option Declared × OverrideReading :=
  let lists := record.collectLists diagnostics
  let declared := lists.declared record.name
  (declared, record.collectOverrides declared (lists.finish record.name))

end Record

end RecordProjection
