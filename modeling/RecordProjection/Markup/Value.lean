import RecordProjection.Markup.Entity

/-!
The value that an attribute has, from the characters between its quotes: spaces of every kind become
blanks, references are replaced, entities by their own text. A list of tokens loses the blanks that
separate nothing.
-/

namespace RecordProjection.Markup

/-- A fault in a value. Without a place of its own it is a fault of what the value belongs to. -/
structure ValueFault where
  kind : FaultKind
  place : Option (List Char)
deriving DecidableEq, Repr

def joinTexts (first : List Char) (second : Except ValueFault (List Char)) :
    Except ValueFault (List Char) :=
  match second with
  | .error fault => .error fault
  | .ok text => .ok (first ++ text)

def Stop.valueFault (text : List Char) : Stop → ValueFault
  | invalid place => ⟨.invalidToken, some place⟩
  | _ => ⟨.invalidToken, some text⟩

/-- The text a value stands for. `usable` holds the entities that may be replaced: an entity is
never replaced inside its own text. -/
def expandValue (declarations : Declarations) (usable : List Entity) (text : List Char) :
    Except ValueFault (List Char) :=
  match text with
  | [] => .ok []
  | '&' :: rest =>
    match _read : scanReference rest with
    | .error stop => .error (stop.valueFault text)
    | .ok (.character none, _) => .error ⟨.badCharacterNumber, some text⟩
    | .ok (.character (some c), after) => joinTexts [c] (expandValue declarations usable after)
    | .ok (.entity name, after) =>
      match predefined? name with
      | some c => joinTexts [c] (expandValue declarations usable after)
      | none =>
        match _taken : takeEntity name usable with
        | none =>
          if declarations.declares name then .error ⟨.recursiveEntity, none⟩
          else if declarations.isStrict then .error ⟨.undefinedEntity, none⟩
          else expandValue declarations usable after
        | some (⟨_, .unparsed⟩, _) => .error ⟨.binaryEntity, some text⟩
        | some (⟨_, .external⟩, _) => .error ⟨.externalEntityInAttribute, some text⟩
        | some (⟨_, .text inner⟩, others) =>
          match expandValue declarations others inner with
          | .error fault => .error ⟨fault.kind, none⟩
          | .ok expansion => joinTexts expansion (expandValue declarations usable after)
  | '<' :: _ => .error ⟨.invalidToken, some text⟩
  | '\r' :: '\n' :: rest => joinTexts [' '] (expandValue declarations usable rest)
  | c :: rest =>
    joinTexts [if isSpace c then ' ' else c] (expandValue declarations usable rest)
termination_by (usable.length, text.length)
decreasing_by
  all_goals
    first
    | (have shorter := scanReference_shorter _read
       apply Prod.Lex.right; simp only [List.length_cons]; omega)
    | (apply Prod.Lex.left; exact takeEntity_shorter _taken)
    | (apply Prod.Lex.right; simp only [List.length_cons]; omega)

/-- Single blanks between tokens; `afterBlank` tells whether a blank would follow another one. -/
def squeezeBlanks (afterBlank : Bool) : List Char → List Char
  | [] => []
  | c :: rest =>
    if c = ' ' then
      if afterBlank || rest.all (· = ' ') then squeezeBlanks true rest
      else c :: squeezeBlanks true rest
    else c :: squeezeBlanks false rest

def attributeValue (declarations : Declarations) (usable : List Entity) (tokenized : Bool)
    (text : List Char) : Except ValueFault (List Char) :=
  match expandValue declarations usable text with
  | .error fault => .error fault
  | .ok value => .ok (if tokenized then squeezeBlanks true value else value)

/-- The fault of a value as a fault of the document. `valuePlace` is the document from the value on,
`length` the number of characters in the value, and `start` the place of what the value belongs to.
-/
def ValueFault.mishap (fault : ValueFault) (valuePlace : List Char) (length : Nat)
    (start : List Char) : Mishap :=
  match fault.place with
  | none => ⟨fault.kind, start⟩
  | some rest => ⟨fault.kind, valuePlace.drop (length - rest.length)⟩

end RecordProjection.Markup
