import RecordProjection.Files.Path
import RecordProjection.Text.Display

/-!
What can be wrong with a request that is well formed: a code, a message and a hint each.
-/

namespace RecordProjection.Command

open Files Text

inductive ConfigCode
  | pathNotFound
  | invalidRecordName
  | generateWithDiscovery
  | filterWithoutList
  | unknownRecord
  | outputOverwritesInput
deriving DecidableEq, Repr

namespace ConfigCode

def text : ConfigCode → String
  | pathNotFound => "PATH_NOT_FOUND"
  | invalidRecordName => "INVALID_RECORD_NAME"
  | generateWithDiscovery => "CONFLICT_GENERATE_DISCOVERY"
  | filterWithoutList => "FILTER_WITHOUT_LIST"
  | unknownRecord => "UNKNOWN_RECORD"
  | outputOverwritesInput => "OUTPUT_OVERWRITES_INPUT"

def all : List ConfigCode :=
  [pathNotFound, invalidRecordName, generateWithDiscovery, filterWithoutList, unknownRecord,
    outputOverwritesInput]

def ofText? (text : String) : Option ConfigCode := all.find? fun code => code.text == text

def unknownMessage (text : String) : String := s!"Unknown config error code: {text}"

theorem ofText?_text (code : ConfigCode) : ofText? code.text = some code := by
  cases code <;> decide

end ConfigCode

inductive SelectionPart
  | value
  | entry
  | name
deriving DecidableEq, Repr

def SelectionPart.label : SelectionPart → String
  | value => "--record value"
  | entry => "--record entry"
  | name => "record name"

inductive ConfigFault
  | noInput
  | missingInput (path : Path)
  | invalidRecordName (name : String)
  /-- A selection that is not made of lists of texts. -/
  | invalidSelection (part : SelectionPart) (kind : String)
  | generateWithDiscovery
  | filterWithoutList
  | unknownRecords (registry : String) (names : List String)
  | outputOverwritesInput (path : Path)
  /-- A fault in the words of the caller. -/
  | worded (code : ConfigCode) (message : String) (suggestion : Option String)
deriving DecidableEq, Repr

namespace ConfigFault

def code : ConfigFault → ConfigCode
  | noInput => .pathNotFound
  | missingInput _ => .pathNotFound
  | invalidRecordName _ => .invalidRecordName
  | invalidSelection .. => .invalidRecordName
  | generateWithDiscovery => .generateWithDiscovery
  | filterWithoutList => .filterWithoutList
  | unknownRecords .. => .unknownRecord
  | outputOverwritesInput _ => .outputOverwritesInput
  | worded code .. => code

def message : ConfigFault → String
  | noInput => "--input is required: no path provided."
  | missingInput path => s!"Path for --input does not exist: {path.text}"
  | invalidRecordName name => s!"Invalid record name: {name}"
  | invalidSelection part kind => s!"Invalid {part.label} type: {kind}"
  | generateWithDiscovery => "Generate flags cannot be combined with discovery flags."
  | filterWithoutList => "--filter requires --list-records."
  | unknownRecords registry names =>
    s!"Record(s) not found in {registry}: {commaSeparated names}"
  | outputOverwritesInput path =>
    s!"Generated output would overwrite the input registry: {path.text}"
  | worded _ message _ => message

def suggestion : ConfigFault → Option String
  | noInput => some "Pass the record registry to expand: --input /path/to/records.xml"
  | missingInput _ => some "Pass the record registry to expand: --input /path/to/records.xml"
  | invalidRecordName _ => some "Record names are identifiers (for example QueryParams)."
  | invalidSelection .. => some "Pass record names as --record QueryParams."
  | generateWithDiscovery => some "Choose either generate mode or one discovery command."
  | filterWithoutList => some "Add --list-records or remove --filter."
  | unknownRecords .. => some "Run --list-records to see the available records."
  | outputOverwritesInput _ => some "Pass a different --output-dir or move the input out of it."
  | worded _ _ suggestion => suggestion

def lines (fault : ConfigFault) : List String :=
  let line := s!"Config error [{fault.code.text}]: {fault.message}\n"
  match fault.suggestion with
  | none => [line]
  | some hint => if hint.isEmpty then [line] else [line, s!"Hint: {hint}\n"]

end ConfigFault

end RecordProjection.Command
