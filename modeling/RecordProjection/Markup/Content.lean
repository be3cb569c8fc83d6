import RecordProjection.Markup.Opening
import RecordProjection.Markup.Piece

/-!
From the pieces of a text to the tree of elements. The elements that are open form a stack; the text
of an entity has to close what it opens and nothing else.
-/

namespace RecordProjection.Markup

inductive Growth
  /-- The elements that are still open, the innermost first. -/
  | unfinished (opened : List OpenElement)
  | finished (root : Element) (rest : List Char)

def addText (text : List Char) : List OpenElement → List OpenElement
  | [] => []
  | innermost :: outer => innermost.addText text :: outer

def followingText : List PlacedPiece → List Char
  | [] => []
  | next :: _ => next.place

def attach (element : Element) : List OpenElement → List OpenElement ⊕ Element
  | [] => .inr element
  | innermost :: outer => .inl (innermost.addChild element :: outer)

def currentScope : List OpenElement → Scope
  | [] => outerScope
  | innermost :: _ => innermost.scope

/-- Grows the tree by some pieces. `base` is the number of elements that were open at the start of
the text: none for the document, some for an entity. Faults inside an entity are faults of the
reference to it. -/
def grow (declarations : Declarations) (usable : List Entity) (base : Nat)
    (opened : List OpenElement) (pieces : List PlacedPiece) : Except Mishap Growth :=
  match pieces with
  | [] => .ok (.unfinished opened)
  | ⟨.finish, place⟩ :: _ =>
    if base = 0 then .error ⟨.noElement, place⟩
    else if opened.length = base then .ok (.unfinished opened)
    else .error ⟨.asynchronousEntity, place⟩
  | ⟨.fault mishap, _⟩ :: _ => .error mishap
  | ⟨.declaration, place⟩ :: _ => .error ⟨.misplacedDeclaration, place⟩
  | ⟨.remark, _⟩ :: rest => grow declarations usable base opened rest
  | ⟨.char c, _⟩ :: rest => grow declarations usable base (addText [c] opened) rest
  | ⟨.literal data, _⟩ :: rest => grow declarations usable base (addText data opened) rest
  | ⟨.reference (.character none), place⟩ :: _ => .error ⟨.badCharacterNumber, place⟩
  | ⟨.reference (.character (some c)), _⟩ :: rest =>
    grow declarations usable base (addText [c] opened) rest
  | ⟨.reference (.entity name), place⟩ :: rest =>
    match predefined? name with
    | some c => grow declarations usable base (addText [c] opened) rest
    | none =>
      match _taken : takeEntity name usable with
      | none =>
        if declarations.declares name then .error ⟨.recursiveEntity, place⟩
        else if declarations.isStrict then .error ⟨.undefinedEntity, place⟩
        else .error ⟨.unresolvedEntity name, place⟩
      | some (⟨_, .unparsed⟩, _) => .error ⟨.binaryEntity, place⟩
      | some (⟨_, .external⟩, _) => .error ⟨.unresolvedEntity name, place⟩
      | some (⟨_, .text inner⟩, others) =>
        match grow declarations others opened.length opened (Markup.pieces .complete inner) with
        | .error mishap => .error ⟨mishap.kind, place⟩
        | .ok (.finished _ _) => .error ⟨.asynchronousEntity, place⟩
        | .ok (.unfinished opened) => grow declarations usable base opened rest
  | ⟨.startTag tag, place⟩ :: rest =>
    match tag.opened declarations usable (currentScope opened) place with
    | .error mishap => .error mishap
    | .ok innermost =>
      if tag.closed then
        match attach innermost.element opened with
        | .inr root => .ok (.finished root (followingText rest))
        | .inl opened => grow declarations usable base opened rest
      else grow declarations usable base (innermost :: opened) rest
  | ⟨.endTag name namePlace, place⟩ :: rest =>
    match opened with
    | [] => .error ⟨.asynchronousEntity, place⟩
    | innermost :: outer =>
      if opened.length = base then .error ⟨.asynchronousEntity, place⟩
      else if innermost.name ≠ name then .error ⟨.mismatchedTag, namePlace⟩
      else
        match attach innermost.element outer with
        | .inr root => .ok (.finished root (followingText rest))
        | .inl opened => grow declarations usable base opened rest
termination_by (usable.length, pieces.length)
decreasing_by
  all_goals
    first
    | (apply Prod.Lex.left; exact takeEntity_shorter _taken)
    | (apply Prod.Lex.right; simp only [List.length_cons]; omega)

end RecordProjection.Markup
