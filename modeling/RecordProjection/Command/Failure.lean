import RecordProjection.Command.ConfigFault
import RecordProjection.Command.Console
import RecordProjection.Projection.Expansion
import RecordProjection.Registry.Storage

/-!
Everything that can keep a request from being answered, and how it is reported: as something the
user can mend, as a failure of the program itself, or not at all.
-/

namespace RecordProjection.Command

open Files

inductive RequestFault
  | config (fault : ConfigFault)
  /-- The system does not let the input be looked for. -/
  | file (fault : FileFault)
  | nullCharacter
deriving DecidableEq, Repr

inductive Failure
  | config (fault : ConfigFault)
  | expansion (fault : ExpansionFault)
  | file (fault : FileFault)
  | content (fault : ReadFault)
  | nullCharacter
  | unprintable (fault : PrintFault)

def Failure.ofRequest : RequestFault → Failure
  | .config fault => .config fault
  | .file fault => .file fault
  | .nullCharacter => .nullCharacter

def Failure.ofLoad : LoadFault → Failure
  | .file fault => .file fault
  | .content fault => .content fault

def Failure.message : Failure → String
  | config fault => fault.message
  | expansion fault => fault.message
  | file fault => fault.message
  | content fault => fault.message
  | nullCharacter => "embedded null byte"
  | unprintable fault => fault.message

inductive Manner
  /-- By its own texts, which are printed one after the other. -/
  | plain (texts : List String)
  | error (message : String)
  | internalError (message : String)
  /-- Not at all: it ends the program. -/
  | unreported

/-- How a registry that cannot be read is reported. -/
def readManner (fault : ReadFault) : Manner :=
  match fault with
  | .document (.malformed ..) => .error fault.message
  | .document (.lookup _) => .unreported
  | .document (.codec _) => .internalError fault.message
  | .registry (.unreadableIndex _) => .internalError fault.message
  | .registry _ => .error fault.message

def rejectionTexts (diagnostics : List Diagnostic) (fault : ExpansionFault) : List String :=
  (diagnostics.map fun diagnostic => diagnostic.render ++ "\n") ++ [s!"Error: {fault.message}\n"]

def Failure.manner : Failure → Manner
  | config fault => .plain fault.lines
  | expansion (.rejected diagnostics record) =>
    .plain (rejectionTexts diagnostics (.rejected diagnostics record))
  | expansion (.invariant fault) => .internalError fault.message
  | file fault => .error fault.message
  | content fault => readManner fault
  | nullCharacter => .internalError nullCharacter.message
  | unprintable fault => .internalError fault.message

def Manner.report? : Manner → Option (List String)
  | plain texts => some texts
  | error message => some [s!"Error: {message}\n"]
  | internalError message => some [s!"Internal error: {message}\n"]
  | unreported => none

end RecordProjection.Command
