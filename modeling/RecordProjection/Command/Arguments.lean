import RecordProjection.Command.RawValue
import RecordProjection.Command.Word
import RecordProjection.Files.Path

/-!
The arguments of a command line. Words are read from left to right; a flag takes the words behind it
as far as it wants values and finds them. Words that no flag takes are only refused once all flags
are read.
-/

namespace RecordProjection.Command

open Files

structure Arguments where
  input : Option Path := none
  outputDirectory : Path := { parts := ["generated"] }
  /-- The selected records: in general one list for each time the flag was given. -/
  records : RawValue := .missing
  listRecords : Bool := false
  info : Option String := none
  filter : Option String := none

inductive Halt
  | help
  | fault (fault : ArgumentFault)
deriving DecidableEq, Repr

def Halt.exitCode : Halt → Nat
  | help => 0
  | fault _ => 2

structure Reading where
  arguments : Arguments := {}
  /-- The flags that were given, the last one first. -/
  given : List Flag := []
  surplus : List String := []

def valueCount? (arity : Arity) (words : List Word) : Option Nat :=
  let available := (words.takeWhile Word.isValue).length
  match arity with
  | .none => some 0
  | .one => if available = 0 then none else some 1
  | .oneOrMore => if available = 0 then none else some available

/-- What is done about letters behind the short help flag that are no flags themselves. Releases of
the argument reader differ here. -/
inductive TailRule
  | refuse
  /-- They are left over, and help is given before anything is said of them. -/
  | skip
deriving DecidableEq, Repr

/-- A value that is taken letter by letter for short flags, of which there is only the one for help.
-/
def readTail (flag : Flag) : TailRule → List Char → Halt
  | _, [] => .help
  | .skip, 'h' :: '=' :: rest => .fault (.surplusValue flag (String.ofList rest))
  | rule, 'h' :: rest => readTail flag rule rest
  | .skip, c :: rest =>
    if c = '-' then .fault (.surplusValue flag (String.ofList (c :: rest))) else .help
  | .refuse, rest => .fault (.surplusValue flag (String.ofList rest))

def refuseValue (rule : TailRule) (flag : Flag) (spelling : String) (attached : Attachment) :
    Halt :=
  let long := spelling.startsWith doubleDash || attached.value.isEmpty
  if long || (rule = .skip && attached.equals) then .fault (.surplusValue flag attached.value)
  else readTail flag rule attached.value.toList

def Arguments.set (arguments : Arguments) (flag : Flag) (values : List String) : Arguments :=
  let value := values.headD ""
  match flag with
  | .help => arguments
  | .input => { arguments with input := some (.ofText value) }
  | .outputDirectory => { arguments with outputDirectory := .ofText value }
  | .record => { arguments with records := arguments.records.add (.ofTexts values) }
  | .listRecords => { arguments with listRecords := true }
  | .info => { arguments with info := some value }
  | .filter => { arguments with filter := some value }

def Reading.enter (reading : Reading) (flag : Flag) (values : List String) :
    Except Halt Reading :=
  if flag = .help then .error .help
  else
    match flag.rivals.find? reading.given.contains with
    | some rival => .error (.fault (.rivals flag rival))
    | none =>
      .ok { reading with
        arguments := reading.arguments.set flag values
        given := flag :: reading.given }

def Reading.readOn (rule : TailRule) (reading : Reading) (words : List Word) :
    Except Halt Reading :=
  match words with
  | [] => .ok reading
  | word :: rest =>
    match word.role with
    | .separator => .ok { reading with surplus := reading.surplus ++ words.map Word.text }
    | .flag flag spelling (some attached) =>
      if flag.arity = .none then .error (refuseValue rule flag spelling attached)
      else
        match reading.enter flag [attached.value] with
        | .error halt => .error halt
        | .ok reading => reading.readOn rule rest
    | .flag flag _ none =>
      match valueCount? flag.arity rest with
      | none => .error (.fault (.missingValue flag))
      | some count =>
        match reading.enter flag ((rest.take count).map Word.text) with
        | .error halt => .error halt
        | .ok reading => reading.readOn rule (rest.drop count)
    | _ => { reading with surplus := reading.surplus ++ [word.text] }.readOn rule rest
termination_by words.length

def parseArguments (rule : TailRule) (line : List String) : Except Halt Arguments :=
  match wordsOfLine line with
  | .error fault => .error (.fault fault)
  | .ok words =>
    match Reading.readOn rule {} words with
    | .error halt => .error halt
    | .ok reading =>
      if reading.surplus.isEmpty then .ok reading.arguments
      else .error (.fault (.unrecognized reading.surplus))

end RecordProjection.Command
