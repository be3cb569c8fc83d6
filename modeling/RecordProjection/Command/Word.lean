import RecordProjection.Command.ArgumentFault
import RecordProjection.Text.Character
import RecordProjection.Text.Identifier

/-!
The words of a command line and their roles. A word with a dash in front is a flag, a flag with its
value behind an equals sign, or an abbreviation of a flag, if only one flag can be meant; a negative
number and a word with a space in it are values all the same. All words behind a lone double dash
are values.
-/

namespace RecordProjection.Command

open Text

structure Attachment where
  value : String
  equals : Bool
deriving DecidableEq, Repr

inductive Role
  | value
  | separator
  | flag (flag : Flag) (spelling : String) (attached : Option Attachment)
  | unknownFlag
deriving DecidableEq, Repr

structure Word where
  text : String
  role : Role
deriving DecidableEq, Repr

def Word.isValue (word : Word) : Bool := word.role = .value

def splitEquals (text : List Char) : List Char × Option Attachment :=
  match text.dropWhile (· != '=') with
  | [] => (text, none)
  | _ :: value => (text.takeWhile (· != '='), some ⟨String.ofList value, true⟩)

/-- Digits, or digits around a decimal point; only the digits in front of it may be missing. -/
def isUnsignedNumber (text : List Char) : Bool :=
  let whole := text.takeWhile isDecimal
  match text.dropWhile isDecimal with
  | [] => !whole.isEmpty
  | '.' :: fraction => !fraction.isEmpty && fraction.all isDecimal
  | _ => false

def isNegativeNumber (text : List Char) : Bool :=
  match text with
  | '-' :: rest => isUnsignedNumber (chompNewline rest)
  | _ => false

/-- What a spelling makes of a word that starts with one dash: the short flag with a value right
behind it, or an abbreviation. -/
def shortReading? (text : List Char) (entry : String × Flag) : Option (String × Role) :=
  if entry.1.toList = text.take 2 then
    some (entry.1, .flag entry.2 entry.1 (some ⟨String.ofList (text.drop 2), false⟩))
  else if text.isPrefixOf entry.1.toList then some (entry.1, .flag entry.2 entry.1 none)
  else none

def longReading? (text : List Char) (entry : String × Flag) : Option (String × Role) :=
  let (stem, attached) := splitEquals text
  if stem.isPrefixOf entry.1.toList then some (entry.1, .flag entry.2 entry.1 attached) else none

def readings (text : List Char) : List (String × Role) :=
  match text with
  | '-' :: '-' :: _ => Flag.spellings.filterMap (longReading? text)
  | _ => Flag.spellings.filterMap (shortReading? text)

def abbreviationRole (text : List Char) : Except ArgumentFault Role :=
  match readings text with
  | [(_, role)] => .ok role
  | [] => .ok (if isNegativeNumber text || text.contains ' ' then .value else .unknownFlag)
  | several => .error (.ambiguous (String.ofList text) (several.map Prod.fst))

def dashedRole (text : List Char) : Except ArgumentFault Role :=
  match Flag.ofSpelling? text with
  | some flag => .ok (.flag flag (String.ofList text) none)
  | none =>
    if text.length = 1 then .ok .value
    else
      let (stem, attached) := splitEquals text
      match attached, Flag.ofSpelling? stem with
      | some value, some flag => .ok (.flag flag (String.ofList stem) (some value))
      | _, _ => abbreviationRole text

def roleOf (text : String) : Except ArgumentFault Role :=
  match text.toList with
  | '-' :: rest => dashedRole ('-' :: rest)
  | _ => .ok .value

/-- The word that turns all later ones into values. -/
def doubleDash : String := "--"

def wordsOfLine : List String → Except ArgumentFault (List Word)
  | [] => .ok []
  | text :: texts =>
    if text = doubleDash then
      .ok (⟨text, .separator⟩ :: texts.map fun text => ⟨text, .value⟩)
    else
      match roleOf text with
      | .error fault => .error fault
      | .ok role =>
        match wordsOfLine texts with
        | .error fault => .error fault
        | .ok words => .ok (⟨text, role⟩ :: words)

end RecordProjection.Command
