import RecordProjection.Projection.Invariant

/-!
Expansion of records. A record with any diagnostic emits nothing. In a list of records those without
directives, and those that are not selected, are kept as they stand; the diagnostics of all others
are collected before the list is refused.
-/

namespace RecordProjection

structure Expansion where
  parsed : ParsedRecord
  diagnostics : List Diagnostic
  definitions : List Definition

inductive ExpansionFault
  /-- All diagnostics, and the record if they belong to one. -/
  | rejected (diagnostics : List Diagnostic) (record : Option String)
  | invariant (fault : InvariantFault)

def ExpansionFault.message : ExpansionFault → String
  | rejected diagnostics record =>
    let place := match record with
      | none => ""
      | some name => if name.isEmpty then "" else s!" in {name}"
    s!"{diagnostics.length} directive error(s){place}"
  | invariant fault => fault.message

namespace Record

def diagnostics (record : Record) : List Diagnostic :=
  record.directiveDiagnostics ++ record.parse.projectionDiagnostics

def expand (record : Record) : Except InvariantFault Expansion :=
  let parsed := record.parse
  match record.diagnostics with
  | [] => (parsed.emit parsed.projections).map fun definitions => ⟨parsed, [], definitions⟩
  | diagnostics => .ok ⟨parsed, diagnostics, []⟩

def definitions (record : Record) : Except ExpansionFault (List Definition) :=
  match record.expand with
  | .error fault => .error (.invariant fault)
  | .ok expansion =>
    match expansion.diagnostics with
    | [] => .ok expansion.definitions
    | diagnostics => .error (.rejected diagnostics (some record.name))

end Record

structure Outcome where
  name : String
  expanded : Bool
  definitions : List Definition

def Outcome.projections (outcome : Outcome) : List String :=
  if outcome.expanded then (outcome.definitions.drop 1).map Definition.name else []

/-- Whether a selection asks for a record to be expanded; the empty selection asks for all. -/
def isSelected (selected : List String) (record : Record) : Bool :=
  (selected.isEmpty || selected.contains record.name) && record.usesDirectives

def outcomeOf (selected : List String) (record : Record) :
    Except InvariantFault (Outcome × List Diagnostic) :=
  if isSelected selected record then
    record.expand.map fun expansion =>
      (⟨record.name, true, expansion.definitions⟩, expansion.diagnostics)
  else .ok (⟨record.name, false, [record.unchanged]⟩, [])

/-- The outcomes of a list of records, or the diagnostics of all of them. -/
def expandRecords (records : List Record) (selected : List String) :
    Except ExpansionFault (List Outcome) :=
  match records.mapM (outcomeOf selected) with
  | .error fault => .error (.invariant fault)
  | .ok results =>
    match results.flatMap Prod.snd with
    | [] => .ok (results.map Prod.fst)
    | diagnostics => .error (.rejected diagnostics none)

end RecordProjection
