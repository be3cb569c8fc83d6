import RecordProjection.Markup.Doctype.Token

/-!
Declarations of formats that are no markup. They have no effect, but they have to be well formed.
-/

namespace RecordProjection.Markup

inductive FormatStep
  | opened
  | named
  | publicId
  | systemId
  /-- A system identifier may follow the public one. -/
  | identified
  | ended
deriving DecidableEq, Repr

def FormatStep.next (step : FormatStep) (placed : PlacedToken) :
    Except Mishap (Option FormatStep) :=
  match step, placed.token with
  | .opened, .word .name _ => .ok (some .named)
  | .named, token =>
    if token.isKeyword "SYSTEM" then .ok (some .systemId)
    else if token.isKeyword "PUBLIC" then .ok (some .publicId)
    else .error placed.unexpected
  | .publicId, .literal text =>
    match placed.publicIdFault? text with
    | some mishap => .error mishap
    | none => .ok (some .identified)
  | .systemId, .literal _ => .ok (some .ended)
  | .identified, .literal _ => .ok (some .ended)
  | .identified, .close => .ok none
  | .ended, .close => .ok none
  | _, _ => .error placed.unexpected

end RecordProjection.Markup
