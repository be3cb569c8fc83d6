import RecordProjection.Markup.Entity
import RecordProjection.Markup.Piece

/-!
How much text entities may stand for. A short document can stand for an enormous one, by entities
that hold references to entities; so every replacement takes the size of its text from an allowance,
and the reference that would overdraw it is a fault.
-/

namespace RecordProjection.Markup

/-- Every document may grow to less than this number of octets. -/
def grantedSize : Nat := 8388608

/-- Every document may grow to this many times its size. -/
def grantedFactor : Nat := 100

def allowance (size : Nat) : Nat := max (grantedSize - 1 - size) ((grantedFactor - 1) * size)

def octetCount (text : List Char) : Nat := text.foldl (fun count c => count + c.utf8Size) 0

def spendText (usable : List Entity) (left : Nat) (text : List Char) : Option Nat :=
  match text with
  | [] => some left
  | '&' :: rest =>
    match _read : scanReference rest with
    | .ok (.entity name, after) =>
      match _taken : takeEntity name usable with
      | some (⟨_, .text inner⟩, others) =>
        let size := octetCount inner
        if left < size then none
        else
          match spendText others (left - size) inner with
          | none => none
          | some left => spendText usable left after
      | _ => spendText usable left after
    | _ => spendText usable left rest
  | _ :: rest => spendText usable left rest
termination_by (usable.length, text.length)
decreasing_by
  all_goals
    first
    | (have shorter := scanReference_shorter _read
       apply Prod.Lex.right; simp only [List.length_cons]; omega)
    | (apply Prod.Lex.left; exact takeEntity_shorter _taken)
    | (apply Prod.Lex.right; simp only [List.length_cons]; omega)

def spendPiece (usable : List Entity) (left : Nat) : Piece → Option Nat
  | .reference (.entity name) => spendText usable left ('&' :: name ++ [';'])
  | .startTag tag =>
    tag.attributes.foldlM (fun left raw => spendText usable left raw.value) left
  | _ => some left

def limitPieces (usable : List Entity) (left : Nat) : List PlacedPiece → List PlacedPiece
  | [] => []
  | placed :: rest =>
    match spendPiece usable left placed.piece with
    | some left => placed :: limitPieces usable left rest
    | none => [⟨.fault ⟨.amplification, placed.place⟩, placed.place⟩]

def admitted (usable : List Entity) (size : Nat) (pieces : List PlacedPiece) : List PlacedPiece :=
  if usable.isEmpty then pieces else limitPieces usable (allowance size) pieces

end RecordProjection.Markup
