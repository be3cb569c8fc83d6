import RecordProjection.Command.Help
import RecordProjection.Command.Request
import RecordProjection.Report.Detail
import RecordProjection.Report.Generation

/-!
Runs of the program over a tree of files. A run that generates a registry reports all its failures;
one that looks into a registry reports only that a record is missing, and ends with any other
failure. Files change only by one step of a generation, the storing of the registry, and only the
report on it comes after that. What the console cannot show is a failure as well.
-/

namespace RecordProjection.Command

open Files

structure Run where
  output : String := ""
  errors : String := ""
  exitCode : Nat := 0
  /-- The failure that ended the run without a report. -/
  escaped : Option Failure := none
  files : FileTree

/-- The run that ends by printing some texts, or by the first of them that cannot be printed. -/
def Run.tell (console : Console) (run : Run) : List String → Run
  | [] => run
  | text :: texts =>
    match console.fault? text with
    | none => { run with output := run.output ++ text }.tell console texts
    | some fault => { run with exitCode := 1, escaped := some (.unprintable fault) }

def Run.failed (console : Console) (files : FileTree) (output : String) (failure : Failure) : Run :=
  match failure.manner.report? with
  | some texts => { output, exitCode := 1, files : Run }.tell console texts
  | none => { output, exitCode := 1, escaped := some failure, files }

def Run.abandoned (files : FileTree) (failure : Failure) : Run :=
  { exitCode := 1, escaped := some failure, files }

structure Progress where
  files : FileTree
  output : String := ""

abbrev Attempt := EStateM Failure Progress

def Console.print (console : Console) (text : String) : Attempt Unit := fun progress =>
  match console.fault? text with
  | none => .ok () { progress with output := progress.output ++ text }
  | some fault => .error (.unprintable fault) progress

def unknownNames (selected : List String) (records : List Record) : List String :=
  selected.filter fun name => !(records.map Record.name).contains name

def expandedCount (outcomes : List Outcome) : Nat := outcomes.countP Outcome.expanded

namespace Generation

def load (generation : Generation) : Attempt (List Record) := fun progress =>
  match loadRegistry progress.files generation.input with
  | .error fault => .error (.ofLoad fault) progress
  | .ok records => .ok records progress

def expand (generation : Generation) (records : List Record) : Attempt (List Outcome) :=
  fun progress =>
    match unknownNames generation.selected records with
    | [] =>
      match expandRecords records generation.selected with
      | .error fault => .error (.expansion fault) progress
      | .ok outcomes => .ok outcomes progress
    | missing => .error (.config (.unknownRecords generation.input.name missing)) progress

def store (generation : Generation) (outcomes : List Outcome) : Attempt WrittenFile :=
  fun progress =>
    match storeRegistry progress.files generation.outputDirectory generation.input.name
      (allDefinitions outcomes) with
    | (files, .error fault) => .error (.file fault) { progress with files }
    | (files, .ok written) => .ok written { progress with files }

def report (generation : Generation) (outcomes : List Outcome) (written : WrittenFile) :
    GenerationReport where
  label := generation.input.name
  outcomes
  path := written.path.text
  lineCount := written.lineCount

def parsing (generation : Generation) : String := s!"Parsing: {generation.input.text}\n"

def perform (console : Console) (generation : Generation) : Attempt Unit := do
  console.print generation.parsing
  let records ← generation.load
  console.print s!"  Records: {records.length} loaded\n"
  let outcomes ← generation.expand records
  console.print s!"  Expanded: {expandedCount outcomes} records\n"
  let written ← generation.store outcomes
  console.print (generation.report outcomes written).render

def run (console : Console) (generation : Generation) (files : FileTree) : Run :=
  match generation.perform console { files } with
  | .ok _ progress => { output := progress.output, files := progress.files }
  | .error failure progress => .failed console progress.files progress.output failure

end Generation

namespace Discovery

def table (discovery : Discovery) (records : List Record) : String :=
  let summaries := records.map Record.summary
  let shown := discovery.filter.elim summaries fun piece => searchSummaries piece summaries
  recordsTable shown discovery.input.name

def showRecord (console : Console) (discovery : Discovery) (files : FileTree)
    (records : List Record) : Run :=
  let name := discovery.record.getD ""
  match detailOf? records name with
  | .error fault => .abandoned files (.expansion (.invariant fault))
  | .ok none =>
    { errors := s!"Error: record '{name}' not found in {discovery.input.name}\n", exitCode := 1,
      files }
  | .ok (some detail) => { files : Run }.tell console [detail.render]

def run (console : Console) (discovery : Discovery) (files : FileTree) : Run :=
  match loadRegistry files discovery.input with
  | .error fault => .abandoned files (.ofLoad fault)
  | .ok records =>
    match discovery.command with
    | .listRecords => { files : Run }.tell console [discovery.table records]
    | .info => discovery.showRecord console files records

end Discovery

def Arguments.run (console : Console) (arguments : Arguments) (files : FileTree) : Run :=
  match arguments.request files with
  | .error (.config fault) => .failed console files "" (.config fault)
  | .error fault => .abandoned files (.ofRequest fault)
  | .ok (.generate generation) => generation.run console files
  | .ok (.discover discovery) => discovery.run console files

def Halt.output : Halt → String
  | .help => helpText
  | .fault _ => ""

def Halt.errors : Halt → String
  | .help => ""
  | .fault cause => cause.render

def Halt.run (halt : Halt) (files : FileTree) : Run :=
  { output := halt.output, errors := halt.errors, exitCode := halt.exitCode, files }

def runCommand (rule : TailRule) (console : Console) (line : List String) (files : FileTree) :
    Run :=
  match parseArguments rule line with
  | .error halt => halt.run files
  | .ok arguments => arguments.run console files

end RecordProjection.Command
