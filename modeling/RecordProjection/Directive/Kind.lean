import RecordProjection.Text.Identifier

/-!
Directives are the annotations with one of two paths. A membership directive lists records to create
or to be part of; an override directive adds an annotation to the records its selector matches.
-/

namespace RecordProjection.Directive

open Text

inductive DirectiveKind
  | membership
  | override
deriving DecidableEq, Repr

def DirectiveKind.path : DirectiveKind → String
  | .membership => "substruct"
  | .override => "substruct_attr"

def documentationPath : String := "doc"

def directiveKind? (note : String) : Option DirectiveKind :=
  match leadingPath note with
  | none => none
  | some path =>
    if path = DirectiveKind.membership.path then some .membership
    else if path = DirectiveKind.override.path then some .override
    else none

def isDirective (note : String) : Bool := (directiveKind? note).isSome

end RecordProjection.Directive
