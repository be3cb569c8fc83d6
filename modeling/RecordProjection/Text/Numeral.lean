import RecordProjection.Text.Character

/-!
Decimal numerals. Reading takes the digits of every script but no sign, and refuses numerals that
are too long to convert; writing uses the ten common digits, in groups of three where asked.
-/

namespace RecordProjection.Text

def maxDigits : Nat := 4300

inductive NumeralFault
  | unreadable (text : String)
  | tooLong (digits : Nat)
deriving Repr, DecidableEq

def readDigits (value : Nat) : List Char → Option Nat
  | [] => some value
  | c :: rest =>
    match decimalValue? c with
    | some digit => readDigits (10 * value + digit) rest
    | none => none

/-- The number a text denotes. The length of the leading run of digits is judged before what follows
it. -/
def readNumeral (text : String) : Except NumeralFault Nat :=
  let digits := (text.toList.takeWhile isDecimal).length
  if maxDigits < digits then .error (.tooLong digits)
  else
    match text.toList with
    | [] => .error (.unreadable text)
    | c :: rest =>
      match readDigits 0 (c :: rest) with
      | some value => .ok value
      | none => .error (.unreadable text)

/-- The digits in groups of three from the right; `digits` holds the last digit first. -/
def groupThousands : List Char → List Char
  | a :: b :: c :: d :: rest => a :: b :: c :: ',' :: groupThousands (d :: rest)
  | digits => digits

def withThousands (number : Int) : String :=
  let digits := (toString number.natAbs).toList
  let grouped := String.ofList (groupThousands digits.reverse).reverse
  if number < 0 then "-" ++ grouped else grouped

end RecordProjection.Text
