import RecordProjection.Markup.CodePage
import RecordProjection.Markup.Fault

/-!
Encodings of documents. The first octets tell the size of the units; a declaration may then name the
encoding, which has to have units of that size if its name is a standard one. An octet that belongs
to no character is read as the null character, which no document may hold.
-/

namespace RecordProjection.Markup

inductive Encoding
  | utf8
  | utf16 (bigEndian : Bool)
  | latin1
  | ascii (tilde : Bool)
  | codePage (upper : String)
deriving DecidableEq, Repr

def unreadable : Char := '\x00'

def sequenceLength (first : UInt8) : Nat :=
  if first < 0xC0 then 1 else if first < 0xE0 then 2 else if first < 0xF0 then 3
  else if first < 0xF5 then 4 else 1

/-- The characters from an index on, up to the first octet that belongs to none. -/
def decodeUtf8From (octets : ByteArray) (index : Nat) : List Char × Ending :=
  if inside : index < octets.size then
    match octets.utf8DecodeChar? index with
    | some c =>
      let (rest, ending) := decodeUtf8From octets (index + c.utf8Size)
      (c :: rest, ending)
    | none =>
      if octets.size - index < sequenceLength octets[index] then ([], .truncated)
      else ([unreadable], .complete)
  else ([], .complete)
termination_by octets.size - index
decreasing_by
  have := c.utf8Size_pos
  omega

def decodeUtf8 (octets : ByteArray) : List Char × Ending :=
  match String.fromUTF8? octets with
  | some text => (text.toList, .complete)
  | none => decodeUtf8From octets 0

def unitOf (bigEndian : Bool) (first second : UInt8) : Nat :=
  if bigEndian then first.toNat * 256 + second.toNat else second.toNat * 256 + first.toNat

def isHighSurrogate (unit : Nat) : Bool := 0xD800 ≤ unit && unit < 0xDC00
def isLowSurrogate (unit : Nat) : Bool := 0xDC00 ≤ unit && unit < 0xE000

/-- The character of a high surrogate and the unit behind it, of which ten bits count. It need not
be a low surrogate. -/
def surrogatePair (high second : Nat) : Char :=
  Char.ofNat (0x10000 + (high - 0xD800) * 0x400 + second % 0x400)

def decodeUtf16 (bigEndian : Bool) : List UInt8 → List Char × Ending
  | [] => ([], .complete)
  | [_] => ([], .halfUnit)
  | first :: second :: rest =>
    let unit := unitOf bigEndian first second
    if isHighSurrogate unit then
      match rest with
      | third :: fourth :: rest =>
        let (text, ending) := decodeUtf16 bigEndian rest
        (surrogatePair unit (unitOf bigEndian third fourth) :: text, ending)
      | _ => ([], .truncated)
    else if isLowSurrogate unit then ([unreadable], .complete)
    else
      let (text, ending) := decodeUtf16 bigEndian rest
      (Char.ofNat unit :: text, ending)

def asciiCharacter (tilde : Bool) (octet : UInt8) : Char :=
  if octet < 0x80 && (tilde || octet != 0x7E) then Char.ofNat octet.toNat else unreadable

def pageCharacter (upper : Array Char) (octet : UInt8) : Char :=
  if octet < 0x80 then Char.ofNat octet.toNat
  else
    match upper[octet.toNat - 0x80]? with
    | none => unreadable
    | some c => if c = ' ' then unreadable else c

namespace Encoding

def unitSize : Encoding → Nat
  | utf16 _ => 2
  | _ => 1

def decode (encoding : Encoding) (octets : ByteArray) : List Char × Ending :=
  match encoding with
  | utf8 => decodeUtf8 octets
  | utf16 bigEndian => decodeUtf16 bigEndian octets.toList
  | latin1 => (octets.toList.map fun octet => Char.ofNat octet.toNat, .complete)
  | ascii tilde => (octets.toList.map (asciiCharacter tilde), .complete)
  | codePage upper => (octets.toList.map (pageCharacter upper.toList.toArray), .complete)

/-- The encoding that the first octets of a document show, and the size of the mark that shows it.
One octet is not enough to tell. -/
def detect? (octets : ByteArray) : Option (Encoding × Nat) :=
  match (octets.extract 0 3).toList with
  | [_] => none
  | [0xEF, 0xBB] => none
  | 0xEF :: 0xBB :: 0xBF :: _ => some (utf8, 3)
  | 0xFE :: 0xFF :: _ => some (utf16 true, 2)
  | 0xFF :: 0xFE :: _ => some (utf16 false, 2)
  | 0x00 :: _ => some (utf16 true, 0)
  | _ :: 0x00 :: _ => some (utf16 false, 0)
  | _ => some (utf8, 0)

end Encoding

inductive EncodingFault
  /-- It contradicts the first octets. -/
  | conflict
  /-- Its characters are not those that markup is made of. -/
  | foreign
  | lookup (fault : LookupFault)
  | codec (fault : CodecFault)
deriving DecidableEq, Repr

def standardEncodings : List (String × Encoding) :=
  [("UTF-8", .utf8), ("UTF-16BE", .utf16 true), ("UTF-16LE", .utf16 false), ("ISO-8859-1", .latin1),
    ("US-ASCII", .ascii true)]

/-- A name in small letters, with one underscore for each run of separators inside it. -/
def plainName : List Char → List Char
  | [] => []
  | c :: rest =>
    let plain := plainName rest
    if c.isAlphanum || c = '.' then c.toLower :: plain
    else if plain.isEmpty || plain.head? = some '_' then plain
    else '_' :: plain

def namedEncoding (name : List Char) : Except EncodingFault Encoding :=
  let plain := String.ofList ((plainName name).dropWhile (· = '_'))
  if asciiNames.include plain then .ok (.ascii true)
  else if tildelessNames.include plain then .ok (.ascii false)
  else if latin1Names.include plain then .ok .latin1
  else
    match codePages.find? fun page => page.names.include plain with
    | some page => .ok (.codePage page.upper)
    | none =>
      if foreignNames.include plain then .error .foreign
      else if multiByteNames.include plain then .error (.codec .multiByte)
      else if transformNames.include plain then .error (.lookup (.notText (.ofList name)))
      else
        match failingCodecs.lookup plain with
        | some cause => .error (.codec (.failing (.ofList name) cause))
        | none =>
          if plain = "punycode" then .error (.codec .notAscii)
          else .error (.lookup (.unknown (.ofList name)))

def Encoding.redeclared (shown : Encoding) (name : List Char) : Except EncodingFault Encoding :=
  let capitals := String.ofList (name.map Char.toUpper)
  if capitals = "UTF-16" then
    if shown.unitSize = 2 then .ok shown else .error .conflict
  else
    match standardEncodings.lookup capitals with
    | none => namedEncoding name
    | some named =>
      if named.unitSize = shown.unitSize && (named.unitSize = 1 || named = shown) then .ok named
      else .error .conflict

end RecordProjection.Markup
