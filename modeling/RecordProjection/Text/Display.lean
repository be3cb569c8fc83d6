import RecordProjection.Text.Printable.Table

/-!
Texts as messages and tables show them: between quotes, in the order of their code points, with
commas in between, or in columns whose widths count characters. Apostrophes surround a quoted text
unless it holds an apostrophe and no double quote; its unprintable characters are written by number.
-/

namespace RecordProjection.Text

def apostrophe : Char := '\x27'
def doubleQuote : Char := '\x22'
def backslash : Char := '\x5c'

def isPrintable (c : Char) : Bool :=
  if c.toNat < 0x7F then 0x20 ≤ c.toNat else !unprintable.contains c.toNat

def hexDigits (count number : Nat) : List Char :=
  match count with
  | 0 => []
  | count + 1 => hexDigits count (number / 16) ++ [Nat.digitChar (number % 16)]

def numbered (c : Char) : List Char :=
  let code := c.toNat
  if code < 0x100 then backslash :: 'x' :: hexDigits 2 code
  else if code < 0x10000 then backslash :: 'u' :: hexDigits 4 code
  else backslash :: 'U' :: hexDigits 8 code

def quotedChar (mark c : Char) : List Char :=
  if c = mark || c = backslash then [backslash, c]
  else if c = '\n' then [backslash, 'n']
  else if c = '\r' then [backslash, 'r']
  else if c = '\t' then [backslash, 't']
  else if isPrintable c then [c]
  else numbered c

def quoteMark (text : List Char) : Char :=
  if text.contains apostrophe && !text.contains doubleQuote then doubleQuote else apostrophe

def quoted (text : String) : String :=
  let mark := quoteMark text.toList
  .ofList (mark :: text.toList.flatMap (quotedChar mark) ++ [mark])

def sortedDistinct (texts : List String) : List String :=
  texts.eraseDups.mergeSort fun first second => !decide (second < first)

def spaces (count : Nat) : String := .ofList (List.replicate count ' ')

def padEnd (text : String) (width : Nat) : String := text ++ spaces (width - text.length)

def widest (texts : List String) : Nat := texts.foldl (fun width text => max width text.length) 0

def commaSeparated (texts : List String) : String := String.intercalate ", " texts

end RecordProjection.Text
