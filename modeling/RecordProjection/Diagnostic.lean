import RecordProjection.Directive.Malformation

/-!
Diagnostics: what is wrong with the directives of a record, and where. They are collected, so that
one bad directive never hides what is wrong with another.
-/

namespace RecordProjection

open Directive

inductive DiagnosticCode
  | malformed
  | unknownTarget
  | duplicateProjection
  | unusedGeneric
  | unsupportedKind
deriving DecidableEq, Repr

namespace DiagnosticCode

def text : DiagnosticCode → String
  | malformed => "SYNTAX_ERROR"
  | unknownTarget => "UNKNOWN_TARGET"
  | duplicateProjection => "DUPLICATE_PROJECTION"
  | unusedGeneric => "GENERIC_PARAMETER_UNUSED"
  | unsupportedKind => "UNSUPPORTED_KIND"

def all : List DiagnosticCode :=
  [malformed, unknownTarget, duplicateProjection, unusedGeneric, unsupportedKind]

def ofText? (text : String) : Option DiagnosticCode := all.find? fun code => code.text == text

def unknownMessage (text : String) : String := s!"Unknown diagnostic code: {text}"

theorem ofText?_text (code : DiagnosticCode) : ofText? code.text = some code := by
  cases code <;> decide

end DiagnosticCode

inductive Diagnostic
  | malformed (cause : Malformation) (location : String)
  | unknownTarget (target location : String)
  | duplicateProjection (target location : String)
  /-- No field of a projection uses a generic parameter of the record. -/
  | unusedGeneric (projection parameter location : String)
  | unsupportedKind (kind location : String)
  /-- A diagnostic in the words of the caller. -/
  | worded (code : DiagnosticCode) (message location : String) (suggestion : Option String)
deriving DecidableEq, Repr

namespace Diagnostic

def code : Diagnostic → DiagnosticCode
  | malformed .. => .malformed
  | unknownTarget .. => .unknownTarget
  | duplicateProjection .. => .duplicateProjection
  | unusedGeneric .. => .unusedGeneric
  | unsupportedKind .. => .unsupportedKind
  | worded code .. => code

def message : Diagnostic → String
  | malformed cause _ => cause.message
  | unknownTarget target _ =>
    s!"record name `{target}` does not appear in the top-level list of records to create"
  | duplicateProjection target _ => s!"record name `{target}` is declared more than once"
  | unusedGeneric projection parameter _ =>
    s!"generic parameter `{parameter}` is not used in {projection}"
  | unsupportedKind kind _ => s!"{DirectiveKind.membership.path} does not support {kind} records"
  | worded _ message _ _ => message

def location : Diagnostic → String
  | malformed _ location => location
  | unknownTarget _ location => location
  | duplicateProjection _ location => location
  | unusedGeneric _ _ location => location
  | unsupportedKind _ location => location
  | worded _ _ location _ => location

def suggestion : Diagnostic → Option String
  | malformed cause _ => cause.suggestion
  | unknownTarget .. =>
    some s!"Add it to the record's {DirectiveKind.membership.path}(...) list or fix the spelling."
  | unusedGeneric projection parameter _ =>
    some (s!"Every generic parameter must be used by every projection; include " ++
      s!"a field that references `{parameter}` in {projection}.")
  | worded _ _ _ suggestion => suggestion
  | _ => none

def render (diagnostic : Diagnostic) : String :=
  let line := s!"{diagnostic.location}: error[{diagnostic.code.text}]: {diagnostic.message}"
  match diagnostic.suggestion with
  | none => line
  | some hint => if hint.isEmpty then line else line ++ s!"\n  Hint: {hint}"

end Diagnostic

end RecordProjection
