import RecordProjection.Command.Flag
import RecordProjection.Text.Display

/-!
What can be wrong with the words of a command line.
-/

namespace RecordProjection.Command

open Text

inductive ArgumentFault
  | ambiguous (word : String) (spellings : List String)
  | missingValue (flag : Flag)
  | surplusValue (flag : Flag) (value : String)
  | rivals (flag earlier : Flag)
  | unrecognized (words : List String)
deriving DecidableEq, Repr

def Arity.expected : Arity → String
  | none => "expected no argument"
  | one => "expected one argument"
  | oneOrMore => "expected at least one argument"

def ArgumentFault.message : ArgumentFault → String
  | ambiguous word spellings =>
    s!"ambiguous option: {word} could match {commaSeparated spellings}"
  | missingValue flag => s!"argument {flag.name}: {flag.arity.expected}"
  | surplusValue flag value => s!"argument {flag.name}: ignored explicit argument {quoted value}"
  | rivals flag earlier => s!"argument {flag.name}: not allowed with argument {earlier.name}"
  | unrecognized words =>
    let listed := String.intercalate " " words
    s!"unrecognized arguments: {listed}"

def programName : String := "substruct-gen"

def ArgumentFault.render (fault : ArgumentFault) : String :=
  s!"{programName}: error: {fault.message}\n"

end RecordProjection.Command
