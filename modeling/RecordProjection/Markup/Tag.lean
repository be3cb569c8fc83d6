import RecordProjection.Markup.Scan

/-!
Tags: the names and attributes between angle brackets. Attribute values are kept as they are
written, with the places that faults in them are reported at.
-/

namespace RecordProjection.Markup

structure RawAttribute where
  name : List Char
  value : List Char
  place : List Char
  valuePlace : List Char
deriving DecidableEq, Repr

structure StartTag where
  name : List Char
  attributes : List RawAttribute
  /-- Whether the tag is a whole element. -/
  closed : Bool
deriving DecidableEq, Repr

/-- A value up to its closing quote. It holds no opening bracket, and every ampersand in it starts a
reference. -/
def scanValue (mark : Char) : List Char → Except Stop (List Char × List Char)
  | [] => .error .incomplete
  | c :: rest =>
    if c = mark then .ok ([], rest)
    else if c = '<' || !isLegal c then .error (.invalid (c :: rest))
    else if c = '&' then
      match scanReference rest with
      | .error stop => .error stop
      | .ok _ => prepend c (scanValue mark rest)
    else prepend c (scanValue mark rest)

theorem scanValue_shorter {mark : Char} {text value rest : List Char}
    (read : scanValue mark text = .ok (value, rest)) : rest.length < text.length := by
  induction text generalizing value with
  | nil => simp [scanValue] at read
  | cons c tail ih =>
    have further : ∀ {value : List Char}, prepend c (scanValue mark tail) = .ok (value, rest) →
        rest.length < (c :: tail).length := fun found => by
      obtain ⟨_, found⟩ := prepend_ok found
      have := ih found
      simp only [List.length_cons]
      omega
    unfold scanValue at read
    split at read
    · simp only [Except.ok.injEq, Prod.mk.injEq] at read
      rw [← read.2]
      simp
    · split at read
      · simp at read
      · split at read
        · split at read
          · simp at read
          · exact further read
        · exact further read

def scanQuotedValue : List Char → Except Stop (List Char × List Char)
  | [] => .error .incomplete
  | c :: rest =>
    if c = '\x22' || c = '\x27' then scanValue c rest else .error (.invalid (c :: rest))

theorem scanQuotedValue_shorter {text value rest : List Char}
    (read : scanQuotedValue text = .ok (value, rest)) : rest.length < text.length := by
  unfold scanQuotedValue at read
  split at read
  · simp at read
  · split at read
    · have := scanValue_shorter read
      simp only [List.length_cons]
      omega
    · simp at read

def scanAttribute (text : List Char) : Except Stop (RawAttribute × List Char) :=
  match scanQualified text with
  | .error stop => .error stop
  | .ok (name, rest) =>
    match skipSpaces rest with
    | '=' :: rest =>
      let quoted := skipSpaces rest
      match scanQuotedValue quoted with
      | .error stop => .error stop
      | .ok (value, after) => .ok (⟨name, value, text, quoted.drop 1⟩, after)
    | other => .error (stopAt other)

theorem scanAttribute_shorter {text rest : List Char} {raw : RawAttribute}
    (read : scanAttribute text = .ok (raw, rest)) : rest.length < text.length := by
  unfold scanAttribute at read
  split at read
  · simp at read
  · rename_i name tail found
    have := scanQualified_shorter found
    have spaces := length_skipSpaces_le tail
    split at read
    · rename_i after equals
      rw [equals] at spaces
      simp only at read
      split at read
      · simp at read
      · rename_i value following found_value
        simp only [Except.ok.injEq, Prod.mk.injEq] at read
        have := scanQuotedValue_shorter found_value
        have := length_skipSpaces_le after
        rw [← read.2]
        simp only [List.length_cons] at spaces
        omega
    · simp at read

def scanTagEnd : List Char → Except Stop (Bool × List Char)
  | '>' :: rest => .ok (false, rest)
  | '/' :: '>' :: rest => .ok (true, rest)
  | '/' :: rest => .error (stopAt rest)
  | text => .error (stopAt text)

theorem scanTagEnd_shorter {text rest : List Char} {closed : Bool}
    (read : scanTagEnd text = .ok (closed, rest)) : rest.length < text.length := by
  unfold scanTagEnd at read
  split at read <;>
    first
    | (simp only [Except.ok.injEq, Prod.mk.injEq] at read
       rw [← read.2]
       simp only [List.length_cons]
       omega)
    | simp at read

def scanAttributes (text : List Char) : Except Stop (List RawAttribute × Bool × List Char) :=
  match text with
  | [] => .error .incomplete
  | c :: rest =>
    if isSpace c then
      match _inside : skipSpaces rest with
      | [] => .error .incomplete
      | d :: more =>
        if isNameStart d then
          match _read : scanAttribute (d :: more) with
          | .error stop => .error stop
          | .ok (raw, after) =>
            match scanAttributes after with
            | .error stop => .error stop
            | .ok (others, closed, rest) => .ok (raw :: others, closed, rest)
        else
          match scanTagEnd (d :: more) with
          | .error stop => .error stop
          | .ok (closed, rest) => .ok ([], closed, rest)
    else
      match scanTagEnd (c :: rest) with
      | .error stop => .error stop
      | .ok (closed, rest) => .ok ([], closed, rest)
termination_by text.length
decreasing_by
  have := scanAttribute_shorter _read
  have spaces := length_skipSpaces_le rest
  rw [_inside] at spaces
  simp only [List.length_cons] at *
  omega

theorem scanAttributes_shorter {text rest : List Char} {raws : List RawAttribute} {closed : Bool}
    (read : scanAttributes text = .ok (raws, closed, rest)) : rest.length < text.length := by
  induction length : text.length using Nat.strongRecOn generalizing text raws with
  | ind size ih =>
  have ended : ∀ {raws : List RawAttribute} {text : List Char},
      (match scanTagEnd text with
        | .error stop => .error stop
        | .ok (closed, rest) => .ok ([], closed, rest)) = Except.ok (raws, closed, rest) →
      rest.length < text.length := fun read => by
    split at read
    · simp at read
    · rename_i found
      simp only [Except.ok.injEq, Prod.mk.injEq] at read
      rw [← read.2.2]
      exact scanTagEnd_shorter found
  unfold scanAttributes at read
  split at read
  · simp at read
  · rename_i c tail
    split at read
    · split at read
      · simp at read
      · rename_i d more inside
        have spaces := length_skipSpaces_le tail
        rw [inside] at spaces
        simp only [List.length_cons] at *
        split at read
        · split at read
          · simp at read
          · rename_i raw after found
            have shorter := scanAttribute_shorter found
            simp only [List.length_cons] at shorter
            split at read
            · simp at read
            · rename_i others _ _ further
              simp only [Except.ok.injEq, Prod.mk.injEq] at read
              obtain ⟨_, rfl, rfl⟩ := read
              have := ih after.length (by omega) further rfl
              omega
        · have := ended read
          simp only [List.length_cons] at this
          omega
    · rw [← length]
      exact ended read

def scanStartTag (text : List Char) : Except Stop (StartTag × List Char) :=
  match scanQualified text with
  | .error stop => .error stop
  | .ok (name, rest) =>
    match scanAttributes rest with
    | .error stop => .error stop
    | .ok (raws, closed, rest) => .ok (⟨name, raws, closed⟩, rest)

theorem scanStartTag_shorter {text rest : List Char} {tag : StartTag}
    (read : scanStartTag text = .ok (tag, rest)) : rest.length < text.length := by
  unfold scanStartTag at read
  split at read
  · simp at read
  · rename_i found
    have := scanQualified_shorter found
    split at read
    · simp at read
    · rename_i further
      have := scanAttributes_shorter further
      simp only [Except.ok.injEq, Prod.mk.injEq] at read
      rw [← read.2]
      omega

def isTagNameChar (c : Char) : Bool := isNameChar c || c = ':'

/-- An end tag, from its name on. Colons stand anywhere in the name, since it has to be the name of
the start tag. -/
def scanEndTag (text : List Char) : Except Stop (List Char × List Char) :=
  match text with
  | [] => .error .incomplete
  | c :: rest =>
    if isNameStart c then
      match skipSpaces (rest.dropWhile isTagNameChar) with
      | '>' :: after => .ok (c :: rest.takeWhile isTagNameChar, after)
      | other => .error (stopAt other)
    else .error (.invalid (c :: rest))

theorem scanEndTag_shorter {text name rest : List Char}
    (read : scanEndTag text = .ok (name, rest)) : rest.length < text.length := by
  unfold scanEndTag at read
  split at read
  · simp at read
  · rename_i c tail
    split at read
    · have spaces := length_skipSpaces_le (tail.dropWhile isTagNameChar)
      have := length_dropWhile_le isTagNameChar tail
      split at read
      · rename_i after ended
        rw [ended] at spaces
        simp only [Except.ok.injEq, Prod.mk.injEq] at read
        rw [← read.2]
        simp only [List.length_cons] at *
        omega
      · simp at read
    · simp at read

end RecordProjection.Markup
