import RecordProjection.Text.Case.Table

/-!
Small letters. Every letter has one small form except two: a capital I with a dot keeps its dot as a
combining character, and a capital sigma that ends a word becomes the final sigma. In snake case a
name is cut where a capital follows a small letter or a digit, and before the last capital of a run
that a small letter follows; the parts are joined by underscores in small letters.
-/

namespace RecordProjection.Text

def CaseRow.covers (row : CaseRow) (code : Nat) : Bool :=
  row.first ≤ code && code ≤ row.last && (code - row.first) % row.step == 0

def lowerChar (c : Char) : Char :=
  if c.toNat < 0x80 then c.toLower
  else
    match lowerRows.find? fun row => row.covers c.toNat with
    | some row => Char.ofNat (c.toNat + row.distance).toNat
    | none => c

def isCaseIgnorable (c : Char) : Bool := caseIgnorable.contains c.toNat

def isCased (c : Char) : Bool := casedLetters.contains c.toNat

def meetsCased (text : List Char) : Bool :=
  match text.dropWhile isCaseIgnorable with
  | [] => false
  | c :: _ => isCased c

def capitalSigma : Char := '\u03A3'
def smallSigma : Char := '\u03C3'
def finalSigma : Char := '\u03C2'
def dottedCapitalI : Char := '\u0130'
def dotAbove : Char := '\u0307'

/-- Small letters of a text; `before` holds what precedes it, last character first. -/
def lowerAfter (before : List Char) : List Char → List Char
  | [] => []
  | c :: rest =>
    let small :=
      if c = capitalSigma then
        if meetsCased before && !meetsCased rest then [finalSigma] else [smallSigma]
      else if c = dottedCapitalI then ['i', dotAbove]
      else [lowerChar c]
    small ++ lowerAfter (c :: before) rest

def lower (text : String) : String := .ofList (lowerAfter [] text.toList)

def startsWord (previous c : Char) (next : Option Char) : Bool :=
  c.isUpper && (previous.isLower || previous.isDigit || (previous.isUpper && next.any Char.isLower))

def separateWords : List Char → List Char
  | previous :: c :: rest =>
    if startsWord previous c rest.head? then previous :: '_' :: separateWords (c :: rest)
    else previous :: separateWords (c :: rest)
  | text => text

def snakeCase (name : String) : String := lower (.ofList (separateWords name.toList))

end RecordProjection.Text
