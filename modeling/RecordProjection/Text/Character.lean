/-!
Classes of characters, and what is cut at them. Blanks are the white space of every script and the
four information separators. Lines end at the same characters a terminal or a printer would break
at, and a carriage return followed by a line feed is one end. A decimal digit has a place in a run
of ten consecutive code points; digits written as superscripts, in circles or with a full stop look
like digits but form no numeral.
-/

namespace RecordProjection.Text

abbrev Ranges := List (Nat × Nat)

def Ranges.contains (ranges : Ranges) (code : Nat) : Bool :=
  ranges.any fun range => range.1 ≤ code && code ≤ range.2

theorem Ranges.contains_iff (ranges : Ranges) (code : Nat) :
    ranges.contains code = true ↔ ∃ range ∈ ranges, range.1 ≤ code ∧ code ≤ range.2 := by
  simp [Ranges.contains]

def blanks : Ranges :=
  [(0x09, 0x0D), (0x1C, 0x20), (0x85, 0x85), (0xA0, 0xA0), (0x1680, 0x1680), (0x2000, 0x200A),
  (0x2028, 0x2029), (0x202F, 0x202F), (0x205F, 0x205F), (0x3000, 0x3000)]

def isBlank (c : Char) : Bool := blanks.contains c.toNat

def trimLeft (text : List Char) : List Char := text.dropWhile isBlank

def trimRight (text : List Char) : List Char := (text.reverse.dropWhile isBlank).reverse

def trim (text : String) : String := .ofList (trimRight (trimLeft text.toList))

def trimEnd (text : String) : String := .ofList (trimRight text.toList)

def lineEnds : Ranges :=
  [(0x0A, 0x0D), (0x1C, 0x1E), (0x85, 0x85), (0x2028, 0x2029)]

def isLineEnd (c : Char) : Bool := lineEnds.contains c.toNat

def extendLine (c : Char) : List (List Char) → List (List Char)
  | [] => [[c]]
  | line :: lines => (c :: line) :: lines

/-- The lines of a text; an end that closes the text opens no further line. -/
def linesOf : List Char → List (List Char)
  | [] => []
  | '\r' :: '\n' :: rest => [] :: linesOf rest
  | c :: rest => if isLineEnd c then [] :: linesOf rest else extendLine c (linesOf rest)

def lines (text : String) : List String := (linesOf text.toList).map .ofList

/-- The first digit of every run of ten decimal digits. -/
def digitRuns : List Nat :=
  [0x30, 0x660, 0x6F0, 0x7C0, 0x966, 0x9E6, 0xA66, 0xAE6, 0xB66, 0xBE6, 0xC66, 0xCE6, 0xD66,
  0xDE6, 0xE50, 0xED0, 0xF20, 0x1040, 0x1090, 0x17E0, 0x1810, 0x1946, 0x19D0, 0x1A80, 0x1A90,
  0x1B50, 0x1BB0, 0x1C40, 0x1C50, 0xA620, 0xA8D0, 0xA900, 0xA9D0, 0xA9F0, 0xAA50, 0xABF0, 0xFF10,
  0x104A0, 0x10D30, 0x11066, 0x110F0, 0x11136, 0x111D0, 0x112F0, 0x11450, 0x114D0, 0x11650,
  0x116C0, 0x11730, 0x118E0, 0x11950, 0x11C50, 0x11D50, 0x11DA0, 0x16A60, 0x16AC0, 0x16B50,
  0x1D7CE, 0x1D7D8, 0x1D7E2, 0x1D7EC, 0x1D7F6, 0x1E140, 0x1E2F0, 0x1E950, 0x1FBF0]

/-- Digits that stand for no place of a numeral. -/
def ornamentalDigits : Ranges :=
  [(0xB2, 0xB3), (0xB9, 0xB9), (0x1369, 0x1371), (0x19DA, 0x19DA), (0x2070, 0x2070),
  (0x2074, 0x2079), (0x2080, 0x2089), (0x2460, 0x2468), (0x2474, 0x247C), (0x2488, 0x2490),
  (0x24EA, 0x24EA), (0x24F5, 0x24FD), (0x24FF, 0x24FF), (0x2776, 0x277E), (0x2780, 0x2788),
  (0x278A, 0x2792), (0x10A40, 0x10A43), (0x10E60, 0x10E68), (0x11052, 0x1105A),
  (0x1F100, 0x1F10A)]

def decimalValue? (c : Char) : Option Nat :=
  (digitRuns.find? fun start => start ≤ c.toNat && c.toNat < start + 10).map (c.toNat - ·)

def isDecimal (c : Char) : Bool := (decimalValue? c).isSome

def isDigitLike (c : Char) : Bool := isDecimal c || ornamentalDigits.contains c.toNat

theorem decimalValue?_lt {c : Char} {value : Nat} (read : decimalValue? c = some value) :
    value < 10 := by
  simp only [decimalValue?, Option.map_eq_some_iff] at read
  obtain ⟨start, found, rfl⟩ := read
  have place := List.find?_some found
  simp only [Bool.and_eq_true, decide_eq_true_eq] at place
  omega

end RecordProjection.Text
