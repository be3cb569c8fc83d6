/-!
Paths and the places they name. A path keeps its parts as they were given, less those that say
nothing: an empty part, or a lone dot. Two dots stay, since they name the directory around a place.
-/

namespace RecordProjection.Files

/-- The names on the way to a place, the innermost first; the root has none. -/
abbrev Location := List String

inductive Anchor
  | current
  | root
  /-- Exactly two slashes, which name the root and are kept in the text. -/
  | doubleRoot
deriving DecidableEq, Repr

structure Path where
  anchor : Anchor := .current
  parts : List String := []
deriving DecidableEq, Repr

def parentPart : String := ".."

def Anchor.ofText : List Char → Anchor
  | '/' :: '/' :: '/' :: _ => .root
  | '/' :: '/' :: _ => .doubleRoot
  | '/' :: _ => .root
  | _ => .current

def Anchor.text : Anchor → String
  | current => ""
  | root => "/"
  | doubleRoot => "//"

def splitSlashes : List Char → List (List Char)
  | [] => [[]]
  | c :: rest =>
    if c = '/' then [] :: splitSlashes rest
    else
      match splitSlashes rest with
      | [] => [[c]]
      | part :: parts => (c :: part) :: parts

def isMeaningful (part : String) : Bool := part != "" && part != "."

namespace Path

def ofText (text : String) : Path where
  anchor := .ofText text.toList
  parts := ((splitSlashes text.toList).map String.ofList).filter isMeaningful

def text (path : Path) : String :=
  let written := path.anchor.text ++ String.intercalate "/" path.parts
  if written.isEmpty then "." else written

def name (path : Path) : String := path.parts.getLast?.getD ""

/-- No call of the system takes a path with the null character. -/
def hasNull (path : Path) : Bool := path.parts.any fun part => part.toList.contains '\x00'

def parent? (path : Path) : Option Path :=
  if path.parts.isEmpty then none else some { path with parts := path.parts.dropLast }

/-- The second path seen from the first one. A path that starts at the root is the same from
everywhere. -/
def append (base path : Path) : Path :=
  match path.anchor with
  | .current => { base with parts := base.parts ++ path.parts }
  | _ => path

end Path

def step (place : Location) (part : String) : Location :=
  if part = parentPart then place.tail else part :: place

def Anchor.location (workingDirectory : Location) : Anchor → Location
  | current => workingDirectory
  | _ => []

def Path.location (workingDirectory : Location) (path : Path) : Location :=
  path.parts.foldl step (path.anchor.location workingDirectory)

def Path.places (workingDirectory : Location) (path : Path) : List Location :=
  path.parts.foldl (fun places part => step (places.headD []) part :: places)
    [path.anchor.location workingDirectory]

def Path.ofLocation (place : Location) : Path where
  anchor := .root
  parts := place.reverse

theorem Path.parent?_shorter {path parent : Path} (found : path.parent? = some parent) :
    parent.parts.length < path.parts.length := by
  unfold Path.parent? at found
  split at found
  · simp at found
  next nonempty =>
    cases found
    have positive : 0 < path.parts.length := by
      cases parts : path.parts with
      | nil => simp [parts] at nonempty
      | cons => simp
    simp only [List.length_dropLast]
    omega

end RecordProjection.Files
