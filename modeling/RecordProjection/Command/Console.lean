import RecordProjection.Text.Display

/-!
The console that output goes to. It has an encoding of its own; a text with characters that this
does not have is not printed at all.
-/

namespace RecordProjection.Command

open Text

structure Console where
  codec : String
  shows : Char → Bool
  /-- What is said of a character that the console does not show. -/
  reason : String
  ascii : ∀ c, c.toNat < 0x80 → shows c = true

structure PrintFault where
  codec : String
  character : Char
  first : Nat
  last : Nat
  reason : String
deriving DecidableEq, Repr

def PrintFault.message (fault : PrintFault) : String :=
  if fault.first = fault.last then
    let shown := String.ofList (numbered fault.character)
    s!"'{fault.codec}' codec can't encode character '{shown}' in position {fault.first}: " ++
      fault.reason
  else
    s!"'{fault.codec}' codec can't encode characters in position {fault.first}-{fault.last}: " ++
      fault.reason

namespace Console

/-- Why a text cannot be printed, if it cannot. -/
def fault? (console : Console) (text : String) : Option PrintFault :=
  let first := (text.toList.takeWhile console.shows).length
  match text.toList.dropWhile console.shows with
  | [] => none
  | character :: rest =>
    let run := (rest.takeWhile fun c => !console.shows c).length
    some ⟨console.codec, character, first, first + run, console.reason⟩

def unicode : Console := ⟨"utf-8", fun _ => true, "surrogates not allowed", fun _ _ => rfl⟩

end Console

end RecordProjection.Command
