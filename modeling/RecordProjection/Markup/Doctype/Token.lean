import RecordProjection.Markup.PrologToken
import RecordProjection.Markup.Value

/-!
What the declarations of a document type have in common: keywords, literals that are identifiers,
and the fault of a token that cannot stand where it stands.
-/

namespace RecordProjection.Markup

def PlacedToken.unexpected (placed : PlacedToken) : Mishap :=
  match placed.token with
  | .fault mishap => mishap
  | .parameter => ⟨.illegalParameter, placed.place⟩
  | .declaration => ⟨.misplacedDeclaration, placed.place⟩
  | _ => ⟨.unexpectedMarkup, placed.place⟩

def PrologToken.isKeyword (token : PrologToken) (keyword : String) : Bool :=
  token = .word .name keyword.toList

def PlacedToken.publicIdFault? (placed : PlacedToken) (text : List Char) : Option Mishap :=
  match text.dropWhile isPublicIdChar with
  | [] => none
  | bad =>
    some ⟨.illegalPublicId, (placed.place.drop 1).drop (text.length - (bad.length : Nat))⟩

def PlacedToken.valueMishap (placed : PlacedToken) (text : List Char) (fault : ValueFault) :
    Mishap :=
  fault.mishap (placed.place.drop 1) text.length placed.place

end RecordProjection.Markup
