import RecordProjection.Directive.Kind

/-!
The ways a directive can be malformed, with their wording. What a cause shows is the text as it was
found: trimmed annotations, or tokens joined by single spaces.
-/

namespace RecordProjection.Directive

inductive Malformation
  | missingList (path note : String)
  | unterminatedList (note : String)
  | trailingText (trailing path : String)
  | emptyName
  | badName (found : String)
  | badExpression (found : String)
  | unknownOperator (operator : String)
  | badOperands (operator found : String)
  | emptyNegation
  | incompleteOverride
  | injectedDirective (injected : String)
  | undeclared (record : String)
  /-- A malformation in the words of the caller. -/
  | worded (message : String) (suggestion : Option String)
deriving DecidableEq, Repr

namespace Malformation

def message : Malformation → String
  | missingList path note => s!"expected `{path}(...)`, found `{note}`"
  | unterminatedList note => s!"unterminated list in `{note}`"
  | trailingText trailing path => s!"unexpected `{trailing}` after `{path}(...)`"
  | emptyName => "expected a record name, found nothing"
  | badName found => s!"expected a record name, found `{found}`"
  | badExpression found => s!"expected a record name or expression, found `{found}`"
  | unknownOperator operator =>
    s!"unexpected operator `{operator}`, expected `not`, `any`, or `all`"
  | badOperands operator found => s!"expected `{operator}(...)`, found `{found}`"
  | emptyNegation => "`not()` needs at least one operand"
  | incompleteOverride =>
    s!"expected `{DirectiveKind.override.path}(<selector>, <annotation>)`"
  | injectedDirective injected =>
    s!"`{injected}` cannot be injected: directives are not emitted"
  | undeclared record =>
    s!"record `{record}` has no `{DirectiveKind.membership.path}(...)` directive"
  | worded message _ => message

def suggestion : Malformation → Option String
  | undeclared _ =>
    some s!"Declare the projections to create: {DirectiveKind.membership.path}(Name1, Name2)"
  | worded _ suggestion => suggestion
  | _ => none

end Malformation

end RecordProjection.Directive
