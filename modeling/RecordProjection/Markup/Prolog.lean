import RecordProjection.Markup.Doctype.AttributeList
import RecordProjection.Markup.Doctype.ContentModel
import RecordProjection.Markup.Doctype.EntityDeclaration
import RecordProjection.Markup.Doctype.ForeignFormat

/-!
What stands around the root: before it remarks and at most one document type with declarations,
after it remarks and nothing else.
-/

namespace RecordProjection.Markup

inductive PrologStep
  | before
  | doctypeOpened
  | doctypeNamed
  | publicId
  | systemId
  | identified
  | subset
  | entity (step : EntityStep)
  | attributes (step : AttributeStep)
  | model (step : ModelStep)
  | format (step : FormatStep)
  | subsetClosed
  | after
deriving DecidableEq, Repr

def declarationStep? (keyword : List Char) : Option PrologStep :=
  [("ENTITY", .entity .opened), ("ATTLIST", .attributes .opened), ("ELEMENT", .model .opened),
    ("NOTATION", .format .opened)].lookup (String.ofList keyword)

def PrologStep.next (declarations : Declarations) (step : PrologStep) (placed : PlacedToken) :
    Except Mishap (Declarations × PrologStep) :=
  let outside := { declarations with unread := true }
  match step, placed.token with
  | .before, .remark => .ok (declarations, .before)
  | .before, .opening keyword =>
    if keyword = "DOCTYPE".toList then .ok (declarations, .doctypeOpened)
    else .error placed.unexpected
  | .doctypeOpened, .word kind _ =>
    if kind = .token then .error placed.unexpected else .ok (declarations, .doctypeNamed)
  | .doctypeNamed, .bracketOpen => .ok (declarations, .subset)
  | .doctypeNamed, .close => .ok (declarations, .after)
  | .doctypeNamed, token =>
    if token.isKeyword "SYSTEM" then .ok (declarations, .systemId)
    else if token.isKeyword "PUBLIC" then .ok (declarations, .publicId)
    else .error placed.unexpected
  | .publicId, .literal text =>
    match placed.publicIdFault? text with
    | some mishap => .error mishap
    | none => .ok (outside, .systemId)
  | .systemId, .literal _ => .ok (outside, .identified)
  | .identified, .bracketOpen => .ok (declarations, .subset)
  | .identified, .close => .ok (declarations, .after)
  | .subset, .remark => .ok (declarations, .subset)
  | .subset, .parameter => .ok (declarations.passOver, .subset)
  | .subset, .bracketClose => .ok (declarations, .subsetClosed)
  | .subset, .opening keyword =>
    match declarationStep? keyword with
    | some step => .ok (declarations, step)
    | none => .error placed.unexpected
  | .entity step, _ =>
    match step.next declarations placed with
    | .error mishap => .error mishap
    | .ok (declarations, step) => .ok (declarations, step.elim .subset .entity)
  | .attributes step, _ =>
    match step.next declarations placed with
    | .error mishap => .error mishap
    | .ok (declarations, step) => .ok (declarations, step.elim .subset .attributes)
  | .model step, _ =>
    match step.next placed with
    | .error mishap => .error mishap
    | .ok step => .ok (declarations, step.elim .subset .model)
  | .format step, _ =>
    match step.next placed with
    | .error mishap => .error mishap
    | .ok step => .ok (declarations, step.elim .subset .format)
  | .subsetClosed, .close => .ok (declarations, .after)
  | .after, .remark => .ok (declarations, .after)
  | _, _ => .error placed.unexpected

def readProlog (declarations : Declarations) (step : PrologStep) :
    List PlacedToken → Except Mishap (Declarations × List Char)
  | [] => .error ⟨.noElement, []⟩
  | placed :: rest =>
    if placed.token = .rootStart && (step = .before || step = .after) then
      .ok (declarations, placed.place)
    else
      match step.next declarations placed with
      | .error mishap => .error mishap
      | .ok (declarations, step) => readProlog declarations step rest

/-- Checks what stands after the root. The end of the document is no fault there. -/
def checkEpilog : List PlacedToken → Except Mishap Unit
  | [] => .ok ()
  | ⟨.remark, _⟩ :: rest => checkEpilog rest
  | ⟨.fault ⟨.noElement, _⟩, _⟩ :: _ => .ok ()
  | ⟨.fault mishap, _⟩ :: _ => .error mishap
  | placed :: _ => .error ⟨.junkAfterRoot, placed.place⟩

end RecordProjection.Markup
