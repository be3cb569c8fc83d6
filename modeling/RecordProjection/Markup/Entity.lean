import RecordProjection.Markup.Scan

/-!
What a document declares before its root: entities, which stand for a text, and attributes with
their defaults. The first declaration of a name counts.
-/

namespace RecordProjection.Markup

inductive EntityContent
  | text (characters : List Char)
  | external
  | unparsed
deriving DecidableEq, Repr

structure Entity where
  name : List Char
  content : EntityContent
deriving DecidableEq, Repr

structure AttributeDeclaration where
  element : List Char
  name : List Char
  /-- The value of an attribute that a tag does not mention. -/
  implied : Option (List Char)
  /-- Whether the value is a list of tokens, with single spaces between them. -/
  tokenized : Bool
deriving DecidableEq, Repr

structure Declarations where
  entities : List Entity := []
  attributes : List AttributeDeclaration := []
  /-- Whether the document says that it needs no declarations from elsewhere. -/
  standalone : Bool := false
  /-- Whether there are declarations elsewhere, which are not read. -/
  unread : Bool := false
  /-- Whether the remaining declarations are passed over. -/
  skipping : Bool := false
deriving DecidableEq, Repr

def predefined? (name : List Char) : Option Char :=
  [("lt", '<'), ("gt", '>'), ("amp", '&'), ("quot", '\x22'), ("apos", '\x27')].lookup
    (String.ofList name)

namespace Declarations

def isStrict (declarations : Declarations) : Bool := !declarations.unread || declarations.standalone

def declares (declarations : Declarations) (name : List Char) : Bool :=
  declarations.entities.any fun entity => entity.name = name

def addEntity (declarations : Declarations) (entity : Entity) : Declarations :=
  if declarations.skipping || declarations.declares entity.name || (predefined? entity.name).isSome
  then declarations
  else { declarations with entities := declarations.entities ++ [entity] }

def attribute? (declarations : Declarations) (element name : List Char) :
    Option AttributeDeclaration :=
  declarations.attributes.find? fun declared => declared.element = element && declared.name = name

def addAttribute (declarations : Declarations) (added : AttributeDeclaration) : Declarations :=
  if declarations.skipping || (declarations.attribute? added.element added.name).isSome
  then declarations
  else { declarations with attributes := declarations.attributes ++ [added] }

/-- Notes a reference to declarations elsewhere: from there on nothing is known for certain. -/
def passOver (declarations : Declarations) : Declarations :=
  { declarations with unread := true, skipping := !declarations.standalone }

end Declarations

def takeEntity (name : List Char) : List Entity → Option (Entity × List Entity)
  | [] => none
  | entity :: rest =>
    if entity.name = name then some (entity, rest)
    else (takeEntity name rest).map fun (found, others) => (found, entity :: others)

theorem takeEntity_shorter {name : List Char} {entities others : List Entity} {entity : Entity}
    (taken : takeEntity name entities = some (entity, others)) :
    others.length < entities.length := by
  induction entities generalizing others with
  | nil => simp [takeEntity] at taken
  | cons first rest ih =>
    unfold takeEntity at taken
    split at taken
    · simp only [Option.some.injEq, Prod.mk.injEq] at taken
      rw [← taken.2]
      simp
    · simp only [Option.map_eq_some_iff, Prod.mk.injEq, Prod.exists] at taken
      obtain ⟨_, remaining, found, rfl, rfl⟩ := taken
      have := ih found
      simp only [List.length_cons]
      omega

end RecordProjection.Markup
