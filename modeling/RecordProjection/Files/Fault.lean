import RecordProjection.Files.Path
import RecordProjection.Text.Display

/-!
Why a path cannot be used, as messages tell it: a number, a text and the path.
-/

namespace RecordProjection.Files

open Text

inductive Refusal
  | forbidden
  | tooLong
deriving DecidableEq, Repr

inductive Obstacle
  /-- Nothing is there, or nothing is on the way there. -/
  | missing
  | alreadyThere
  | notDirectory
  | isDirectory
  | refused (refusal : Refusal)
deriving DecidableEq, Repr

def Obstacle.number : Obstacle → Nat
  | missing => 2
  | alreadyThere => 17
  | notDirectory => 20
  | isDirectory => 21
  | refused .forbidden => 13
  | refused .tooLong => 36

def Obstacle.text : Obstacle → String
  | missing => "No such file or directory"
  | alreadyThere => "File exists"
  | notDirectory => "Not a directory"
  | isDirectory => "Is a directory"
  | refused .forbidden => "Permission denied"
  | refused .tooLong => "File name too long"

structure FileFault where
  kind : Obstacle
  path : Path
deriving DecidableEq, Repr

def FileFault.message (fault : FileFault) : String :=
  s!"[Errno {fault.kind.number}] {fault.kind.text}: {quoted fault.path.text}"

end RecordProjection.Files
