import RecordProjection.Command.Arguments
import RecordProjection.Command.Failure
import RecordProjection.Text.Display

/-!
Requests: what a command line asks for, once its arguments are found to go together. A request
either generates a registry or looks into one.
-/

namespace RecordProjection.Command

open Files Text

structure Generation where
  input : Path
  outputDirectory : Path
  /-- The selected names in order; if there are none, all records are meant. -/
  selected : List String
deriving DecidableEq, Repr

inductive DiscoveryCommand
  | listRecords
  | info
deriving DecidableEq, Repr

def DiscoveryCommand.text : DiscoveryCommand → String
  | listRecords => "list-records"
  | info => "info"

structure Discovery where
  command : DiscoveryCommand
  input : Path
  filter : Option String
  record : Option String
deriving DecidableEq, Repr

inductive Request
  | generate (generation : Generation)
  | discover (discovery : Discovery)
deriving DecidableEq, Repr

def validName (name : String) : Except ConfigFault String :=
  if isName name then .ok name else .error (.invalidRecordName name)

def nameOf : RawValue → Except ConfigFault String
  | .text name => .ok name
  | other => .error (.invalidSelection .name other.kind)

def namesOf : RawValue → Except ConfigFault (List String)
  | .text name => .ok [name]
  | .list items => items.mapM nameOf
  | other => .error (.invalidSelection .entry other.kind)

/-- All names in a selection, in order. They need not be names that a record can have. -/
def selectedNames : RawValue → Except ConfigFault (List String)
  | .missing => .ok []
  | .list items => (items.mapM namesOf).map List.flatten
  | other => .error (.invalidSelection .value other.kind)

namespace Arguments

/-- Whether an option says something; an empty text does not. -/
def saysSomething (option : Option String) : Bool := !(option.getD "").isEmpty

def asksToDiscover (arguments : Arguments) : Bool :=
  arguments.listRecords || saysSomething arguments.info

def existingInput (arguments : Arguments) (tree : FileTree) : Except RequestFault Path :=
  match arguments.input with
  | none => .error (.config .noInput)
  | some path =>
    match tree.existence path with
    | .error fault => .error (.file fault)
    | .ok there => if there then .ok path else .error (.config (.missingInput path))

def discovery (arguments : Arguments) (input : Path) : Except ConfigFault Discovery :=
  let command := if arguments.listRecords then .listRecords else .info
  match arguments.info.mapM validName with
  | .error fault => .error fault
  | .ok record => .ok { command, input, filter := arguments.filter, record }

def outputPath (arguments : Arguments) (input : Path) : Path :=
  arguments.outputDirectory.append (.ofText input.name)

def paths (arguments : Arguments) : List Path :=
  match arguments.input with
  | none => []
  | some input => [input, arguments.outputPath input]

def generation (arguments : Arguments) (input : Path) (names : List String) (tree : FileTree) :
    Except RequestFault Generation :=
  let output := arguments.outputPath input
  if output.hasNull then .error .nullCharacter
  else if output.location tree.workingDirectory = input.location tree.workingDirectory then
    .error (.config (.outputOverwritesInput input))
  else
    match names.mapM validName with
    | .error fault => .error (.config fault)
    | .ok names =>
      .ok { input, outputDirectory := arguments.outputDirectory, selected := sortedDistinct names }

/-- The request that the arguments make. What they say is judged before the input is looked for. -/
def request (arguments : Arguments) (tree : FileTree) : Except RequestFault Request :=
  match selectedNames arguments.records with
  | .error fault => .error (.config fault)
  | .ok names =>
    if saysSomething arguments.filter && !arguments.listRecords then
      .error (.config .filterWithoutList)
    else if !names.isEmpty && arguments.asksToDiscover then
      .error (.config .generateWithDiscovery)
    else
      match arguments.existingInput tree with
      | .error fault => .error fault
      | .ok input =>
        if arguments.asksToDiscover then
          ((arguments.discovery input).map .discover).mapError .config
        else (arguments.generation input names tree).map .generate

end Arguments

end RecordProjection.Command
