import RecordProjection.Markup.Fault
import RecordProjection.Markup.NameChar

/-!
Scanning: one piece of markup read from the front of a text, together with the text that follows it.
Every piece that is read makes the text shorter.
-/

namespace RecordProjection.Markup

inductive Stop
  /-- The text goes on with a character that cannot stand there. -/
  | invalid (place : List Char)
  /-- The text ends before the piece does. -/
  | incomplete
  /-- The text ends inside a literal section; the place is that of its last unread characters. -/
  | unclosedLiteral (place : List Char)
deriving DecidableEq, Repr

def Stop.mishap (ending : Ending) (start : List Char) : Stop → Mishap
  | invalid place => ⟨.invalidToken, place⟩
  | incomplete => ⟨ending.insideMarkup, start⟩
  | unclosedLiteral place =>
    match ending with
    | .truncated => ⟨.partialCharacter, []⟩
    | _ => ⟨.unclosedLiteralSection, place⟩

def stopAt : List Char → Stop
  | [] => .incomplete
  | text => .invalid text

def skipSpaces (text : List Char) : List Char := text.dropWhile isSpace

theorem length_dropWhile_le (p : Char → Bool) (text : List Char) :
    (text.dropWhile p).length ≤ text.length :=
  (List.dropWhile_suffix p).length_le

theorem length_skipSpaces_le (text : List Char) : (skipSpaces text).length ≤ text.length :=
  length_dropWhile_le isSpace text

def scanName : List Char → Except Stop (List Char × List Char)
  | [] => .error .incomplete
  | c :: rest =>
    if isNameStart c then .ok (c :: rest.takeWhile isNameChar, rest.dropWhile isNameChar)
    else .error (.invalid (c :: rest))

theorem scanName_shorter {text name rest : List Char} (read : scanName text = .ok (name, rest)) :
    rest.length < text.length := by
  cases text with
  | nil => simp [scanName] at read
  | cons c tail =>
    simp only [scanName] at read
    split at read
    · simp only [Except.ok.injEq, Prod.mk.injEq] at read
      rw [← read.2]
      have := length_dropWhile_le isNameChar tail
      simp only [List.length_cons]
      omega
    · simp at read

def scanQualified (text : List Char) : Except Stop (List Char × List Char) :=
  match scanName text with
  | .error stop => .error stop
  | .ok (first, ':' :: rest) =>
    match scanName rest with
    | .error stop => .error stop
    | .ok (second, rest) => .ok (first ++ ':' :: second, rest)
  | .ok (first, rest) => .ok (first, rest)

theorem scanQualified_shorter {text name rest : List Char}
    (read : scanQualified text = .ok (name, rest)) : rest.length < text.length := by
  unfold scanQualified at read
  split at read
  · simp at read
  · rename_i first tail found
    split at read
    · simp at read
    · rename_i second after found_second
      simp only [Except.ok.injEq, Prod.mk.injEq] at read
      have := scanName_shorter found
      have := scanName_shorter found_second
      simp only [List.length_cons] at *
      rw [← read.2]
      omega
  · rename_i found
    simp only [Except.ok.injEq, Prod.mk.injEq] at read
    rw [← read.2]
    exact scanName_shorter found

inductive Reference
  | entity (name : List Char)
  /-- A character by its number, if there is one that a document may hold. -/
  | character (c : Option Char)
deriving DecidableEq, Repr

def isHexDigit (c : Char) : Bool := c.isDigit || ('a' ≤ c && c ≤ 'f') || ('A' ≤ c && c ≤ 'F')

def hexValue (c : Char) : Nat :=
  if c.isDigit then c.toNat - '0'.toNat
  else if c.toNat < 'a'.toNat then c.toNat - 'A'.toNat + 10
  else c.toNat - 'a'.toNat + 10

def ofDigits (base : Nat) (digits : List Char) : Nat :=
  digits.foldl (fun value digit => base * value + hexValue digit) 0

def legalChar? (number : Nat) : Option Char :=
  if number.isValidChar && isLegal (Char.ofNat number) then some (Char.ofNat number) else none

def scanNumber (base : Nat) (isDigit : Char → Bool) (text : List Char) :
    Except Stop (Reference × List Char) :=
  match text.takeWhile isDigit with
  | [] => .error (stopAt text)
  | digits =>
    match text.dropWhile isDigit with
    | ';' :: rest => .ok (.character (legalChar? (ofDigits base digits)), rest)
    | other => .error (stopAt other)

theorem scanNumber_shorter {base : Nat} {isDigit : Char → Bool} {text rest : List Char}
    {reference : Reference} (read : scanNumber base isDigit text = .ok (reference, rest)) :
    rest.length < text.length := by
  unfold scanNumber at read
  split at read
  · simp at read
  · split at read
    · rename_i after found
      simp only [Except.ok.injEq, Prod.mk.injEq] at read
      have := length_dropWhile_le isDigit text
      rw [found] at this
      rw [← read.2]
      simp only [List.length_cons] at this
      omega
    · simp at read

def scanReference (text : List Char) : Except Stop (Reference × List Char) :=
  match text with
  | '#' :: 'x' :: rest => scanNumber 16 isHexDigit rest
  | '#' :: rest => scanNumber 10 Char.isDigit rest
  | text =>
    match scanName text with
    | .error stop => .error stop
    | .ok (name, ';' :: rest) => .ok (.entity name, rest)
    | .ok (_, rest) => .error (stopAt rest)

theorem scanReference_shorter {text rest : List Char} {reference : Reference}
    (read : scanReference text = .ok (reference, rest)) : rest.length < text.length := by
  unfold scanReference at read
  split at read
  · have := scanNumber_shorter read
    simp only [List.length_cons]
    omega
  · have := scanNumber_shorter read
    simp only [List.length_cons]
    omega
  · split at read
    · simp at read
    · rename_i found
      have := scanName_shorter found
      simp only [Except.ok.injEq, Prod.mk.injEq] at read
      rw [← read.2]
      simp only [List.length_cons] at this
      omega
    · simp at read

/-- The text after a comment, from behind its opening on. Two hyphens in a row stand only at the
end. -/
def scanComment : List Char → Except Stop (List Char)
  | [] => .error .incomplete
  | '-' :: '-' :: '>' :: rest => .ok rest
  | '-' :: '-' :: rest => .error (stopAt rest)
  | c :: rest => if isLegal c then scanComment rest else .error (.invalid (c :: rest))

theorem scanComment_shorter {text rest : List Char} (read : scanComment text = .ok rest) :
    rest.length < text.length := by
  fun_induction scanComment text with
  | case1 => simp at read
  | case2 after =>
    simp only [Except.ok.injEq] at read
    subst read
    simp only [List.length_cons]
    omega
  | case3 => simp at read
  | case4 c tail _ _ _ ih => have := ih read; simp only [List.length_cons]; omega
  | case5 => simp at read

def scanInstruction : List Char → Except Stop (List Char)
  | [] => .error .incomplete
  | '?' :: '>' :: rest => .ok rest
  | c :: rest => if isLegal c then scanInstruction rest else .error (.invalid (c :: rest))

theorem scanInstruction_shorter {text rest : List Char} (read : scanInstruction text = .ok rest) :
    rest.length < text.length := by
  fun_induction scanInstruction text with
  | case1 => simp at read
  | case2 after =>
    simp only [Except.ok.injEq] at read
    subst read
    simp only [List.length_cons]
    omega
  | case3 c tail _ _ ih => have := ih read; simp only [List.length_cons]; omega
  | case4 => simp at read

def declarationTarget : List Char := "xml".toList

/-- An instruction from behind its opening on: whether it is a declaration, and the text after it.
No other spelling of the declaration's target is allowed. -/
def scanTargeted (text : List Char) : Except Stop (Bool × List Char) :=
  match scanName text with
  | .error stop => .error stop
  | .ok (target, rest) =>
    if target.map Char.toLower = declarationTarget && target ≠ declarationTarget then
      .error (stopAt rest)
    else
      let ended : Except Stop (List Char) :=
        match rest with
        | '?' :: '>' :: after => .ok after
        | '?' :: other => .error (stopAt other)
        | c :: after => if isSpace c then scanInstruction after else .error (.invalid rest)
        | [] => .error .incomplete
      match ended with
      | .error stop => .error stop
      | .ok after => .ok (decide (target = declarationTarget), after)

theorem scanTargeted_shorter {text rest : List Char} {declares : Bool}
    (read : scanTargeted text = .ok (declares, rest)) : rest.length < text.length := by
  unfold scanTargeted at read
  split at read
  · simp at read
  · rename_i target tail found
    have := scanName_shorter found
    split at read
    · simp at read
    · simp only at read
      split at read
      · simp at read
      · rename_i after ended
        simp only [Except.ok.injEq, Prod.mk.injEq] at read
        rw [← read.2]
        split at ended
        · simp only [Except.ok.injEq] at ended
          subst ended
          simp only [List.length_cons] at this
          omega
        · simp at ended
        · split at ended
          · have := scanInstruction_shorter ended
            simp only [List.length_cons] at *
            omega
          · simp at ended
        · simp at ended

def literalWord : List Char := "CDATA[".toList

def scanWord : List Char → List Char → Except Stop (List Char)
  | [], text => .ok text
  | _ :: _, [] => .error .incomplete
  | w :: word, c :: text => if w = c then scanWord word text else .error (.invalid (c :: text))

theorem scanWord_le {word text rest : List Char} (read : scanWord word text = .ok rest) :
    rest.length ≤ text.length := by
  fun_induction scanWord word text with
  | case1 => simp only [Except.ok.injEq] at read; subst read; exact Nat.le_refl _
  | case2 => simp at read
  | case3 word c tail ih => have := ih read; simp only [List.length_cons]; omega
  | case4 => simp at read

def prepend (c : Char) : Except Stop (List Char × List Char) → Except Stop (List Char × List Char)
  | .ok (text, rest) => .ok (c :: text, rest)
  | .error stop => .error stop

def scanLiteral : List Char → Except Stop (List Char × List Char)
  | [] => .error (.unclosedLiteral [])
  | ['\r'] => .error (.unclosedLiteral ['\r'])
  | [']'] => .error (.unclosedLiteral [']'])
  | [']', ']'] => .error (.unclosedLiteral [']', ']'])
  | ']' :: ']' :: '>' :: rest => .ok ([], rest)
  | '\r' :: '\n' :: rest => prepend '\n' (scanLiteral rest)
  | '\r' :: rest => prepend '\n' (scanLiteral rest)
  | c :: rest => if isLegal c then prepend c (scanLiteral rest) else .error (.invalid (c :: rest))

theorem prepend_ok {c : Char} {scanned : Except Stop (List Char × List Char)}
    {text rest : List Char}
    (read : prepend c scanned = .ok (text, rest)) : ∃ tail, scanned = .ok (tail, rest) := by
  unfold prepend at read
  split at read
  · simp only [Except.ok.injEq, Prod.mk.injEq] at read
    exact ⟨_, by rw [← read.2]⟩
  · simp at read

theorem scanLiteral_shorter {text data rest : List Char}
    (read : scanLiteral text = .ok (data, rest)) :
    rest.length < text.length := by
  fun_induction scanLiteral text generalizing data with
  | case1 => simp at read
  | case2 => simp at read
  | case3 => simp at read
  | case4 => simp at read
  | case5 after =>
    simp only [Except.ok.injEq, Prod.mk.injEq] at read
    rw [← read.2]
    simp only [List.length_cons]
    omega
  | case6 tail ih =>
    obtain ⟨_, found⟩ := prepend_ok read
    have := ih found
    simp only [List.length_cons]
    omega
  | case7 tail _ _ ih =>
    obtain ⟨_, found⟩ := prepend_ok read
    have := ih found
    simp only [List.length_cons]
    omega
  | case8 c tail =>
    rename_i ih
    obtain ⟨_, found⟩ := prepend_ok read
    have := ih found
    simp only [List.length_cons]
    omega
  | case9 => simp at read

end RecordProjection.Markup
