import RecordProjection.Directive.Token

/-!
Brackets in a list of tokens. Matching keeps a stack of the closers still owed, so kinds must agree;
splitting at commas only counts depth. On balanced lists the two agree about what is top level.
-/

namespace RecordProjection.Directive

def closerOf (opener : String) : String :=
  if opener = "(" then ")" else if opener = "[" then "]" else "\x7d"

/-- The index of the token that pays the last debt of `owed`; `index` is that of the first token. -/
def closeFrom (index : Nat) (owed : List String) : List Token → Option Nat
  | [] => none
  | token :: rest =>
    match token.kind with
    | .opening => closeFrom (index + 1) (closerOf token.text :: owed) rest
    | .closing =>
      match owed with
      | [] => none
      | closer :: outer =>
        if closer ≠ token.text then none
        else if outer.isEmpty then some index
        else closeFrom (index + 1) outer rest
    | _ => closeFrom (index + 1) owed rest

def matchingClose (tokens : List Token) (first : Nat) : Option Nat :=
  closeFrom first [] (tokens.drop first)

def depthAfter (depth : Int) (token : Token) : Int :=
  match token.kind with
  | .opening => depth + 1
  | .closing => depth - 1
  | _ => depth

def extendSegment (token : Token) : List (List Token) → List (List Token)
  | [] => [[token]]
  | segment :: segments => (token :: segment) :: segments

def segmentsFrom (depth : Int) : List Token → List (List Token)
  | [] => [[]]
  | token :: rest =>
    if token.kind = .comma && depth = 0 then [] :: segmentsFrom depth rest
    else extendSegment token (segmentsFrom (depthAfter depth token) rest)

/-- The segments without an empty one at the end, so one comma may close the list. -/
def splitTopLevel (tokens : List Token) : List (List Token) :=
  let segments := segmentsFrom 0 tokens
  if segments.getLast?.any List.isEmpty then segments.dropLast else segments

theorem length_extendSegment {token : Token} {segments : List (List Token)} {bound : Nat}
    (bounded : ∀ segment ∈ segments, segment.length ≤ bound) :
    ∀ segment ∈ extendSegment token segments, segment.length ≤ bound + 1 := by
  cases segments with
  | nil => simp [extendSegment]
  | cons first others =>
    intro segment member
    rcases List.mem_cons.1 member with rfl | later
    · simpa using bounded first (List.mem_cons_self ..)
    · exact Nat.le_succ_of_le (bounded segment (List.mem_cons_of_mem _ later))

theorem length_of_mem_segmentsFrom (tokens : List Token) (depth : Int) :
    ∀ segment ∈ segmentsFrom depth tokens, segment.length ≤ tokens.length := by
  induction tokens generalizing depth with
  | nil => simp [segmentsFrom]
  | cons token rest ih =>
    unfold segmentsFrom
    split
    · intro segment member
      rcases List.mem_cons.1 member with rfl | later
      · simp
      · exact Nat.le_succ_of_le (ih depth segment later)
    · exact length_extendSegment (ih _)

theorem length_of_mem_splitTopLevel {tokens segment : List Token}
    (member : segment ∈ splitTopLevel tokens) : segment.length ≤ tokens.length := by
  unfold splitTopLevel at member
  dsimp only at member
  split at member
  · exact length_of_mem_segmentsFrom tokens 0 segment (List.dropLast_subset _ member)
  · exact length_of_mem_segmentsFrom tokens 0 segment member

end RecordProjection.Directive
