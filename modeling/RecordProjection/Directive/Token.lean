import RecordProjection.Text.Display
import RecordProjection.Text.Identifier

/-!
Tokens of annotation text. Blanks separate tokens and belong to none of them; every other character
belongs to exactly one, so the text between two token offsets is the text as written.

A token's extent is decided from its first character and what follows it, as a kind and the number
of further characters it takes.
-/

namespace RecordProjection.Directive

open Text

inductive TokenKind
  | string
  | ident
  | opening
  | closing
  | comma
  | punct
deriving DecidableEq, Repr

structure Token where
  kind : TokenKind
  text : String
  start : Nat
  stop : Nat
deriving DecidableEq, Repr

/-- The number of characters up to and with the quote that closes a string. A backslash takes the
character after it along. -/
def stringExtent : List Char → Option Nat
  | [] => none
  | c :: rest =>
    if c = doubleQuote then some 1
    else if c = backslash then
      match rest with
      | [] => none
      | _ :: more => (stringExtent more).map (· + 2)
    else (stringExtent rest).map (· + 1)

def lifetimeExtent : List Char → Option Nat
  | [] => none
  | c :: rest => if isIdentStart c then some ((rest.takeWhile isIdentChar).length + 1) else none

/-- Kind of the token that starts with `c`, and how many of the characters after `c` it takes. -/
def extent (c : Char) (rest : List Char) : TokenKind × Nat :=
  if c = doubleQuote then
    match stringExtent rest with
    | some count => (.string, count)
    | none => (.punct, 0)
  else if c = apostrophe then
    match lifetimeExtent rest with
    | some count => (.ident, count)
    | none => (.punct, 0)
  else if isIdentStart c then (.ident, (rest.takeWhile isIdentChar).length)
  else if c = '(' || c = '[' || c = '\x7b' then (.opening, 0)
  else if c = ')' || c = ']' || c = '\x7d' then (.closing, 0)
  else if c = ',' then (.comma, 0)
  else (.punct, 0)

def scan (start : Nat) (text : List Char) : List Token :=
  match text with
  | [] => []
  | c :: rest =>
    if isBlank c then scan (start + 1) rest
    else
      let (kind, count) := extent c rest
      { kind, text := .ofList (c :: rest.take count), start, stop := start + 1 + count } ::
        scan (start + 1 + count) (rest.drop count)
termination_by text.length

def tokenize (text : String) : List Token := scan 0 text.toList

def slice (text : String) (start stop : Nat) : String :=
  .ofList ((text.toList.take stop).drop start)

def spell (tokens : List Token) : String := String.intercalate " " (tokens.map Token.text)

end RecordProjection.Directive
