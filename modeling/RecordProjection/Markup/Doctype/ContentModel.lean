import RecordProjection.Markup.Doctype.Token

/-!
Declarations of what elements contain. They have no effect, but they have to be well formed: the
members of a group are joined by one kind of connector throughout.
-/

namespace RecordProjection.Markup

inductive Connector
  | sequence
  | choice
deriving DecidableEq, Repr

inductive ModelStep
  | opened
  | named
  | first
  | mixed
  | mixedName
  | mixedNext
  | member (groups : List (Option Connector))
  | afterMember (groups : List (Option Connector))
  | ended
deriving DecidableEq, Repr

/-- The groups after a connector in the innermost of them, unless another one is in use there. -/
def joinGroup (connector : Connector) : List (Option Connector) → Option (List (Option Connector))
  | [] => none
  | innermost :: outer =>
    if innermost = none || innermost = some connector then some (some connector :: outer) else none

def ModelStep.next (step : ModelStep) (placed : PlacedToken) : Except Mishap (Option ModelStep) :=
  let unlessToken (kind : WordKind) (step : ModelStep) : Except Mishap (Option ModelStep) :=
    if kind = .token then .error placed.unexpected else .ok (some step)
  match step, placed.token with
  | .opened, .word kind _ => unlessToken kind .named
  | .named, .parenOpen => .ok (some .first)
  | .named, token =>
    if token.isKeyword "EMPTY" || token.isKeyword "ANY" then .ok (some .ended)
    else .error placed.unexpected
  | .first, .hashName text =>
    if text = "PCDATA".toList then .ok (some .mixed) else .error placed.unexpected
  | .first, .parenOpen => .ok (some (.member [none, none]))
  | .first, .word kind _ => unlessToken kind (.afterMember [none])
  | .first, .repeatedName => .ok (some (.afterMember [none]))
  | .mixed, .parenClose none => .ok (some .ended)
  | .mixed, .parenClose (some '*') => .ok (some .ended)
  | .mixed, .bar => .ok (some .mixedName)
  | .mixedName, .word kind _ => unlessToken kind .mixedNext
  | .mixedNext, .parenClose (some '*') => .ok (some .ended)
  | .mixedNext, .bar => .ok (some .mixedName)
  | .member groups, .parenOpen => .ok (some (.member (none :: groups)))
  | .member groups, .word kind _ => unlessToken kind (.afterMember groups)
  | .member groups, .repeatedName => .ok (some (.afterMember groups))
  | .afterMember groups, .parenClose _ =>
    match groups.drop 1 with
    | [] => .ok (some .ended)
    | outer => .ok (some (.afterMember outer))
  | .afterMember groups, .comma =>
    match joinGroup .sequence groups with
    | none => .error ⟨.unexpectedMarkup, placed.place⟩
    | some groups => .ok (some (.member groups))
  | .afterMember groups, .bar =>
    match joinGroup .choice groups with
    | none => .error ⟨.unexpectedMarkup, placed.place⟩
    | some groups => .ok (some (.member groups))
  | .ended, .close => .ok none
  | _, _ => .error placed.unexpected

end RecordProjection.Markup
