import RecordProjection.Directive.Membership
import RecordProjection.Diagnostic

/-!
The names a record declares: itself, and those in its own membership lists. Repetitions are kept
for the diagnostics; the projections to create are the distinct names other than the record's own.
-/

namespace RecordProjection

open Directive

structure Declared where
  source : String
  entries : List String
  /-- Documentation overrides by name, each name once. -/
  documentation : List (String × String) := []
deriving Repr

namespace Declared

def addDocumentation (documentation : List (String × String)) (entry : NameEntry) :
    List (String × String) :=
  match entry.documentation with
  | none => documentation
  | some text =>
    if (documentation.lookup entry.name).isSome then documentation
    else documentation ++ [(entry.name, text)]

def ofEntries (source : String) (entries : List NameEntry) : Declared where
  source
  entries := entries.map NameEntry.name
  documentation := entries.foldl addDocumentation []

def projections (declared : Declared) : List String :=
  (declared.entries.filter (· != declared.source)).eraseDups

def emitted (declared : Declared) : List String := declared.source :: declared.projections

def isKnown (declared : Declared) (name : String) : Bool :=
  name == declared.source || declared.entries.contains name

end Declared

def unknownTargets (declared : Option Declared) (location : String) (names : List String) :
    List Diagnostic :=
  match declared with
  | none => []
  | some declared =>
    (names.filter fun name => !declared.isKnown name).map fun name => .unknownTarget name location

end RecordProjection
