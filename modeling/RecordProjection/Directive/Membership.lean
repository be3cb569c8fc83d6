import RecordProjection.Selector.Parser
import RecordProjection.Directive.Body
import RecordProjection.Directive.Documentation

/-!
Membership directives. On a field they list selectors, on a record the names of records to create;
an item may carry documentation in front of it that overrides the documentation of its records.
-/

namespace RecordProjection

open Directive

structure MembershipEntry where
  selector : Selector
  documentation : Option String
deriving Repr

abbrev Membership := List MembershipEntry

namespace Membership

def includes (membership : Membership) (target : String) : Bool :=
  membership.any fun entry => entry.selector.matches? target

/-- The documentation of the first documented entry that matches. -/
def documentationFor (membership : Membership) (target : String) : Option String :=
  membership.findSome? fun entry =>
    if entry.selector.matches? target then entry.documentation else none

def names (membership : Membership) : List String :=
  (membership.flatMap fun entry => entry.selector.names).eraseDups

end Membership

namespace Directive

def splitDocumentation (segment : List Token) : Option String × List Token :=
  match segment with
  | [] => (none, [])
  | token :: rest =>
    if token.kind = .string then (some (unquote token.text), rest) else (none, segment)

structure NameEntry where
  name : String
  documentation : Option String
deriving DecidableEq, Repr

def nameEntry (segment : List Token) : Except Malformation NameEntry :=
  let (documentation, tokens) := splitDocumentation segment
  let fault :=
    let found := spell segment
    if found.isEmpty then .emptyName else .badName found
  match tokens with
  | [token] => if Text.isName token.text then .ok ⟨token.text, documentation⟩ else .error fault
  | _ => .error fault

def nameList (tokens : List Token) : Except Malformation (List NameEntry) :=
  (splitTopLevel tokens).mapM nameEntry

def membershipEntry (segment : List Token) : Except Malformation MembershipEntry := do
  let (documentation, tokens) := splitDocumentation segment
  return ⟨← Selector.parse tokens, documentation⟩

def membershipList (tokens : List Token) : Except Malformation Membership :=
  (splitTopLevel tokens).mapM membershipEntry

def declaredNames (note : String) : Except Malformation (List NameEntry) := do
  nameList (tokenize (← body DirectiveKind.membership.path note))

def membership (note : String) : Except Malformation Membership := do
  membershipList (tokenize (← body DirectiveKind.membership.path note))

end Directive

end RecordProjection
