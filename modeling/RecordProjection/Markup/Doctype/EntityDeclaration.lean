import RecordProjection.Markup.Doctype.Token

/-!
Declarations of entities, read token by token. The text of an entity is kept with character numbers
replaced and all other references as they are; entities for use in declarations are checked but not
kept, because nothing here refers to them.
-/

namespace RecordProjection.Markup

def entityText (text : List Char) : Except ValueFault (List Char) :=
  match text with
  | [] => .ok []
  | '&' :: rest =>
    match _read : scanReference rest with
    | .error stop => .error (stop.valueFault text)
    | .ok (.character none, _) => .error ⟨.badCharacterNumber, some text⟩
    | .ok (.character (some c), after) => joinTexts [c] (entityText after)
    | .ok (.entity name, after) => joinTexts ('&' :: name ++ [';']) (entityText after)
  | '%' :: rest =>
    match scanPercent rest with
    | .error stop => .error (stop.valueFault text)
    | .ok (.parameter, _) => .error ⟨.illegalParameter, some text⟩
    | .ok (_, place) => .error ⟨.invalidToken, some place⟩
  | '\r' :: '\n' :: rest => joinTexts ['\n'] (entityText rest)
  | c :: rest => joinTexts [if c = '\r' then '\n' else c] (entityText rest)
termination_by text.length
decreasing_by
  all_goals
    first
    | (have shorter := scanReference_shorter _read; simp only [List.length_cons]; omega)
    | (simp only [List.length_cons]; omega)

/-- How far a declaration has been read. The name is missing where the entity is not kept. -/
inductive EntityStep
  | opened
  | parameterMark
  | named (name : Option (List Char))
  | publicId (name : Option (List Char))
  | systemId (name : Option (List Char))
  | outside (name : Option (List Char))
  | unparsed (name : List Char)
  | ended
deriving DecidableEq, Repr

def Declarations.keepEntity (declarations : Declarations) (name : Option (List Char))
    (content : EntityContent) : Declarations :=
  match name with
  | none => declarations
  | some name => declarations.addEntity ⟨name, content⟩

def EntityStep.next (declarations : Declarations) (step : EntityStep) (placed : PlacedToken) :
    Except Mishap (Declarations × Option EntityStep) :=
  match step, placed.token with
  | .opened, .percent => .ok (declarations, some .parameterMark)
  | .opened, .word .name name => .ok (declarations, some (.named (some name)))
  | .parameterMark, .word .name _ => .ok (declarations, some (.named none))
  | .named name, .literal text =>
    if declarations.skipping then .ok (declarations, some .ended)
    else
      match entityText text with
      | .error fault => .error (placed.valueMishap text fault)
      | .ok inner => .ok (declarations.keepEntity name (.text inner), some .ended)
  | .named name, token =>
    if token.isKeyword "SYSTEM" then .ok (declarations, some (.systemId name))
    else if token.isKeyword "PUBLIC" then .ok (declarations, some (.publicId name))
    else .error placed.unexpected
  | .publicId name, .literal text =>
    match placed.publicIdFault? text with
    | some mishap => .error mishap
    | none => .ok (declarations, some (.systemId name))
  | .systemId name, .literal _ => .ok (declarations, some (.outside name))
  | .outside name, .close => .ok (declarations.keepEntity name .external, none)
  | .outside (some name), token =>
    if token.isKeyword "NDATA" then .ok (declarations, some (.unparsed name))
    else .error placed.unexpected
  | .unparsed name, .word .name _ =>
    .ok (declarations.keepEntity (some name) .unparsed, some .ended)
  | .ended, .close => .ok (declarations, none)
  | _, _ => .error placed.unexpected

end RecordProjection.Markup
