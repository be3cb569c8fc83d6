import RecordProjection.Directive.Collecting
import RecordProjection.Registry.Document
import RecordProjection.Report.Detail

/-!
Sessions: a registry that is looked at, added to and generated step by step, beside a collection of
diagnostics and one list of declared names. A step that is refused leaves the session as it was.
-/

namespace RecordProjection

structure Session where
  records : List Record := []
  diagnostics : List Diagnostic := []
  /-- The names that the last record read by itself declared. -/
  declared : Option Declared := none

inductive SessionFault
  | expansion (fault : ExpansionFault)
  | content (fault : ReadFault)

namespace Session

def label : String := "records.xml"

def load (session : Session) (octets : ByteArray) : Except SessionFault Session :=
  match readRecords octets with
  | .error fault => .error (.content fault)
  | .ok records => .ok { session with records }

def add (session : Session) (record : Record) : Session :=
  { session with records := session.records ++ [record] }

structure Generated where
  document : String
  expanded : List String

/-- Generates a document and goes on with the records in it. -/
def generate (session : Session) (selected : List String) :
    Except SessionFault (Session × Generated) :=
  match expandRecords session.records selected with
  | .error fault => .error (.expansion fault)
  | .ok outcomes =>
    let document := registryDocument (outcomes.flatMap Outcome.definitions)
    let expanded := (outcomes.filter Outcome.expanded).map Outcome.name
    (session.load document.toUTF8).map fun session => (session, { document, expanded })

def table (session : Session) (piece : String) : String :=
  recordsTable (searchSummaries piece (session.records.map Record.summary)) label

def detail (session : Session) (name : String) : Except SessionFault (Option String) :=
  match detailOf? session.records name with
  | .error fault => .error (.expansion (.invariant fault))
  | .ok detail => .ok (detail.map RecordDetail.render)

def report (session : Session) (diagnostics : List Diagnostic) : Session :=
  { session with diagnostics := session.diagnostics ++ diagnostics }

def readRecord (session : Session) (record : Record) : Session :=
  let (declared, reading) := record.collect session.diagnostics
  { session with diagnostics := reading.diagnostics, declared }

def readField (session : Session) (owner : String) (index : Int) (field : Field) :
    Session × ParsedField :=
  let (parsed, diagnostics) := field.collect owner index session.declared session.diagnostics
  ({ session with diagnostics }, parsed)

inductive Step
  | load (octets : ByteArray)
  | add (record : Record)
  | generate (selected : List String)
  | readRecord (record : Record)
  | readField (owner : String) (index : Int) (field : Field)
  | report (diagnostics : List Diagnostic)

def take (session : Session) : Step → Except SessionFault Session
  | .load octets => session.load octets
  | .add record => .ok (session.add record)
  | .generate selected => (session.generate selected).map Prod.fst
  | .readRecord record => .ok (session.readRecord record)
  | .readField owner index field => .ok (session.readField owner index field).1
  | .report diagnostics => .ok (session.report diagnostics)

/-- The session after a step; one that is refused changes nothing. -/
def after (session : Session) (step : Step) : Session :=
  match session.take step with
  | .error _ => session
  | .ok next => next

def run (session : Session) (steps : List Step) : Session := steps.foldl after session

end Session

end RecordProjection
