import RecordProjection.Directive.Token
import RecordProjection.Record
import RecordProjection.Text.Display

/-!
Generic parameters in use. A parameter is used by a field when its name is one of the words of the
field's type; an apostrophe before a word belongs to it, so a lifetime and a type never mix.
-/

namespace RecordProjection

open Directive Text

/-- The number of characters a word takes after its first one, if `c` starts a word. -/
def wordExtent (c : Char) (rest : List Char) : Option Nat :=
  if c = apostrophe then lifetimeExtent rest
  else if isIdentStart c then some (rest.takeWhile isIdentChar).length
  else none

def wordsOf (type : List Char) : List (List Char) :=
  match type with
  | [] => []
  | c :: rest =>
    match wordExtent c rest with
    | some count => (c :: rest.take count) :: wordsOf (rest.drop count)
    | none => wordsOf rest
termination_by type.length

def typeWords (type : String) : List String := (wordsOf type.toList).map .ofList

def vocabulary (type : String) : List String := sortedDistinct (typeWords type)

def isUsed (types : List String) (parameter : String) : Bool :=
  types.any fun type => (typeWords type).contains parameter

def usedGenerics (generics : List Generic) (types : List String) : List Generic :=
  generics.filter fun generic => isUsed types generic.name

end RecordProjection
