import RecordProjection.Markup.Scan

/-!
The tokens of what stands before and after the root of a document. Words are names, qualified names
or other tokens of name characters; what separates two tokens is checked where the first one ends.
-/

namespace RecordProjection.Markup

inductive WordKind
  | name
  | qualified
  | token
deriving DecidableEq, Repr

inductive PrologToken
  | word (kind : WordKind) (text : List Char)
  /-- A name with a mark for how often it occurs. -/
  | repeatedName
  | hashName (text : List Char)
  | literal (text : List Char)
  | opening (keyword : List Char)
  | close
  | bracketOpen
  | bracketClose
  | parenOpen
  /-- A closing parenthesis and the mark behind it, if there is one. -/
  | parenClose (mark : Option Char)
  | comma
  | bar
  | percent
  /-- A reference to a declaration elsewhere. -/
  | parameter
  | remark
  /-- A declaration that only the start of a document may hold. -/
  | declaration
  | conditionalOpen
  | conditionalClose
  | rootStart
  | fault (mishap : Mishap)
deriving DecidableEq, Repr

structure PlacedToken where
  token : PrologToken
  place : List Char
deriving DecidableEq, Repr

def endsWord (c : Char) : Bool := isSpace c || [')', '>', ',', '|', '[', '%'].contains c

def isOccurrenceMark (c : Char) : Bool := ['?', '*', '+'].contains c

/-- The rest of a word; `before` holds its characters so far, the last one first. A colon makes a
name a qualified one if a name character follows, and no name otherwise. -/
def scanWordRest (kind : WordKind) (before : List Char) :
    List Char → Except Stop (PrologToken × List Char)
  | [] => .ok (.word kind before.reverse, [])
  | c :: rest =>
    if isNameChar c then scanWordRest kind (c :: before) rest
    else if c = ':' then
      match kind, rest with
      | .name, [] => .error .incomplete
      | .name, d :: _ =>
        scanWordRest (if isNameChar d then .qualified else .token) (c :: before) rest
      | _, _ => scanWordRest .token (c :: before) rest
    else if endsWord c then .ok (.word kind before.reverse, c :: rest)
    else if isOccurrenceMark c && kind ≠ .token then .ok (.repeatedName, rest)
    else .error (.invalid (c :: rest))

def scanQuotedText (mark : Char) : List Char → Except Stop (List Char × List Char)
  | [] => .error .incomplete
  | c :: rest =>
    if c = mark then .ok ([], c :: rest)
    else if isLegal c then prepend c (scanQuotedText mark rest)
    else .error (.invalid (c :: rest))

def endsLiteral (c : Char) : Bool := isSpace c || ['>', '%', '['].contains c

def scanPrologLiteral (mark : Char) (text : List Char) : Except Stop (PrologToken × List Char) :=
  match scanQuotedText mark text with
  | .error stop => .error stop
  | .ok (value, rest) =>
    match rest.drop 1 with
    | [] => .ok (.literal value, [])
    | c :: after =>
      if endsLiteral c then .ok (.literal value, c :: after) else .error (.invalid (c :: after))

def isKeywordChar (c : Char) : Bool := c.isAlpha || c = '_'

def scanDeclaration (text : List Char) : Except Stop (PrologToken × List Char) :=
  match text with
  | '-' :: '-' :: rest =>
    match scanComment rest with
    | .error stop => .error stop
    | .ok after => .ok (.remark, after)
  | '-' :: rest => .error (stopAt rest)
  | '[' :: rest => .ok (.conditionalOpen, rest)
  | text =>
    let keyword := text.takeWhile isKeywordChar
    let rest := text.dropWhile isKeywordChar
    if keyword.isEmpty then .error (stopAt text)
    else
      match rest with
      | ['%'] => .error .incomplete
      | '%' :: c :: after =>
        if isSpace c || c = '%' then .error (.invalid rest)
        else .ok (.opening keyword, '%' :: c :: after)
      | c :: after =>
        if isSpace c then .ok (.opening keyword, c :: after) else .error (.invalid rest)
      | [] => .error .incomplete

def scanAngle (text : List Char) : Except Stop (PrologToken × List Char) :=
  match text with
  | [] => .error .incomplete
  | '!' :: rest => scanDeclaration rest
  | '?' :: rest =>
    match scanTargeted rest with
    | .error stop => .error stop
    | .ok (declares, after) => .ok (if declares then .declaration else .remark, after)
  | c :: rest =>
    if isKeywordChar c || 0x80 ≤ c.toNat && isLegal c then .ok (.rootStart, c :: rest)
    else .error (.invalid (c :: rest))

def scanPercent (text : List Char) : Except Stop (PrologToken × List Char) :=
  match text with
  | [] => .error .incomplete
  | c :: rest =>
    if isSpace c || c = '%' then .ok (.percent, c :: rest)
    else
      match scanName (c :: rest) with
      | .error stop => .error stop
      | .ok (_, ';' :: after) => .ok (.parameter, after)
      | .ok (_, other) => .error (stopAt other)

def endsHashName (c : Char) : Bool := isSpace c || [')', '>', '%', '|'].contains c

def scanHashName (text : List Char) : Except Stop (PrologToken × List Char) :=
  match scanName text with
  | .error stop => .error stop
  | .ok (name, []) => .ok (.hashName name, [])
  | .ok (name, c :: rest) =>
    if endsHashName c then .ok (.hashName name, c :: rest) else .error (.invalid (c :: rest))

def scanParenClose (text : List Char) : Except Stop (PrologToken × List Char) :=
  match text with
  | [] => .ok (.parenClose none, [])
  | c :: rest =>
    if isOccurrenceMark c then .ok (.parenClose (some c), rest)
    else if isSpace c || ['>', ',', '|', ')'].contains c then .ok (.parenClose none, c :: rest)
    else .error (.invalid (c :: rest))

def scanBracketClose (text : List Char) : Except Stop (PrologToken × List Char) :=
  match text with
  | [']'] => .error .incomplete
  | ']' :: '>' :: rest => .ok (.conditionalClose, rest)
  | text => .ok (.bracketClose, text)

def markToken? (c : Char) : Option PrologToken :=
  [(',', .comma), ('[', .bracketOpen), ('(', .parenOpen), ('|', .bar), ('>', .close)].lookup c

def scanWordFrom (c : Char) (rest : List Char) : Except Stop (PrologToken × List Char) :=
  if isNameStart c then scanWordRest .name [c] rest
  else if isNameChar c || c = ':' then scanWordRest .token [c] rest
  else .error (.invalid (c :: rest))

def scanPrologToken (c : Char) (rest : List Char) : Except Stop (PrologToken × List Char) :=
  match markToken? c with
  | some token => .ok (token, rest)
  | none =>
    match c with
    | '\x22' => scanPrologLiteral c rest
    | '\x27' => scanPrologLiteral c rest
    | '<' => scanAngle rest
    | '%' => scanPercent rest
    | ']' => scanBracketClose rest
    | ')' => scanParenClose rest
    | '#' => scanHashName rest
    | _ => scanWordFrom c rest

theorem scanWordRest_le {kind : WordKind} {before text rest : List Char} {token : PrologToken}
    (read : scanWordRest kind before text = .ok (token, rest)) : rest.length ≤ text.length := by
  induction text generalizing kind before with
  | nil =>
    simp only [scanWordRest, Except.ok.injEq, Prod.mk.injEq] at read
    simp [← read.2]
  | cons c tail ih =>
    unfold scanWordRest at read
    split at read
    · exact Nat.le_succ_of_le (ih read)
    · split at read
      · split at read
        · simp at read
        · exact Nat.le_succ_of_le (ih read)
        · exact Nat.le_succ_of_le (ih read)
      · split at read
        · simp only [Except.ok.injEq, Prod.mk.injEq] at read
          simp [← read.2]
        · split at read
          · simp only [Except.ok.injEq, Prod.mk.injEq] at read
            simp [← read.2]
          · simp at read

theorem scanQuotedText_le {mark : Char} {text value rest : List Char}
    (read : scanQuotedText mark text = .ok (value, rest)) : rest.length ≤ text.length := by
  induction text generalizing value with
  | nil => simp [scanQuotedText] at read
  | cons c tail ih =>
    unfold scanQuotedText at read
    split at read
    · simp only [Except.ok.injEq, Prod.mk.injEq] at read
      simp [← read.2]
    · split at read
      · obtain ⟨_, found⟩ := prepend_ok read
        exact Nat.le_succ_of_le (ih found)
      · simp at read

theorem scanPrologLiteral_le {mark : Char} {text rest : List Char} {token : PrologToken}
    (read : scanPrologLiteral mark text = .ok (token, rest)) : rest.length ≤ text.length := by
  unfold scanPrologLiteral at read
  split at read
  · simp at read
  · rename_i value quoted found
    have := scanQuotedText_le found
    have dropped : (quoted.drop 1).length ≤ quoted.length := by simp
    split at read
    · simp only [Except.ok.injEq, Prod.mk.injEq] at read
      simp [← read.2]
    · rename_i c after follows
      rw [follows] at dropped
      split at read
      · simp only [Except.ok.injEq, Prod.mk.injEq] at read
        rw [← read.2]
        omega
      · simp at read

theorem scanDeclaration_le {text rest : List Char} {token : PrologToken}
    (read : scanDeclaration text = .ok (token, rest)) : rest.length ≤ text.length := by
  have short := length_dropWhile_le isKeywordChar text
  unfold scanDeclaration at read
  split at read
  · split at read
    · simp at read
    · rename_i found
      simp only [Except.ok.injEq, Prod.mk.injEq] at read
      have := scanComment_shorter found
      rw [← read.2]
      simp only [List.length_cons]
      omega
  · simp at read
  · simp only [Except.ok.injEq, Prod.mk.injEq] at read
    simp [← read.2]
  · simp only at read
    split at read
    · simp at read
    · split at read
      · simp at read
      · rename_i c after follows
        rw [follows] at short
        split at read
        · simp at read
        · simp only [Except.ok.injEq, Prod.mk.injEq] at read
          rw [← read.2]
          exact short
      · rename_i c after _ _ follows
        rw [follows] at short
        split at read
        · simp only [Except.ok.injEq, Prod.mk.injEq] at read
          rw [← read.2]
          exact short
        · simp at read
      · simp at read

theorem scanAngle_le {text rest : List Char} {token : PrologToken}
    (read : scanAngle text = .ok (token, rest)) : rest.length ≤ text.length := by
  unfold scanAngle at read
  split at read
  · simp at read
  · exact Nat.le_succ_of_le (scanDeclaration_le read)
  · split at read
    · simp at read
    · rename_i found
      simp only [Except.ok.injEq, Prod.mk.injEq] at read
      have := scanTargeted_shorter found
      rw [← read.2]
      simp only [List.length_cons]
      omega
  · split at read
    · simp only [Except.ok.injEq, Prod.mk.injEq] at read
      simp [← read.2]
    · simp at read

theorem scanPercent_le {text rest : List Char} {token : PrologToken}
    (read : scanPercent text = .ok (token, rest)) : rest.length ≤ text.length := by
  unfold scanPercent at read
  split at read
  · simp at read
  · split at read
    · simp only [Except.ok.injEq, Prod.mk.injEq] at read
      simp [← read.2]
    · split at read
      · simp at read
      · rename_i found
        simp only [Except.ok.injEq, Prod.mk.injEq] at read
        have := scanName_shorter found
        simp only [List.length_cons] at *
        rw [← read.2]
        omega
      · simp at read

theorem scanHashName_le {text rest : List Char} {token : PrologToken}
    (read : scanHashName text = .ok (token, rest)) : rest.length ≤ text.length := by
  unfold scanHashName at read
  split at read
  · simp at read
  · simp only [Except.ok.injEq, Prod.mk.injEq] at read
    simp [← read.2]
  · rename_i found
    have := scanName_shorter found
    split at read
    · simp only [Except.ok.injEq, Prod.mk.injEq] at read
      rw [← read.2]
      omega
    · simp at read

theorem scanParenClose_le {text rest : List Char} {token : PrologToken}
    (read : scanParenClose text = .ok (token, rest)) : rest.length ≤ text.length := by
  unfold scanParenClose at read
  split at read
  · simp only [Except.ok.injEq, Prod.mk.injEq] at read
    simp [← read.2]
  · split at read
    · simp only [Except.ok.injEq, Prod.mk.injEq] at read
      simp [← read.2]
    · split at read
      · simp only [Except.ok.injEq, Prod.mk.injEq] at read
        simp [← read.2]
      · simp at read

theorem scanBracketClose_le {text rest : List Char} {token : PrologToken}
    (read : scanBracketClose text = .ok (token, rest)) : rest.length ≤ text.length := by
  unfold scanBracketClose at read
  split at read
  · simp at read
  · simp only [Except.ok.injEq, Prod.mk.injEq] at read
    rw [← read.2]
    simp only [List.length_cons]
    omega
  · simp only [Except.ok.injEq, Prod.mk.injEq] at read
    simp [← read.2]

theorem scanWordFrom_le {c : Char} {text rest : List Char} {token : PrologToken}
    (read : scanWordFrom c text = .ok (token, rest)) : rest.length ≤ text.length := by
  unfold scanWordFrom at read
  split at read
  · exact scanWordRest_le read
  · split at read
    · exact scanWordRest_le read
    · simp at read

theorem scanPrologToken_le {c : Char} {text rest : List Char} {token : PrologToken}
    (read : scanPrologToken c text = .ok (token, rest)) : rest.length ≤ text.length := by
  unfold scanPrologToken at read
  split at read
  · simp only [Except.ok.injEq, Prod.mk.injEq] at read
    simp [← read.2]
  · split at read
    · exact scanPrologLiteral_le read
    · exact scanPrologLiteral_le read
    · exact scanAngle_le read
    · exact scanPercent_le read
    · exact scanBracketClose_le read
    · exact scanParenClose_le read
    · exact scanHashName_le read
    · exact scanWordFrom_le read

/-- The tokens of a text, up to the start of the root, the first fault or the end, which is a fault
of its own. -/
def prologTokens (ending : Ending) (text : List Char) : List PlacedToken :=
  match text with
  | [] => [⟨.fault ⟨ending.beforeRootEnd, []⟩, []⟩]
  | c :: rest =>
    if isSpace c then prologTokens ending rest
    else
      match _read : scanPrologToken c rest with
      | .error stop => [⟨.fault (stop.mishap ending text), text⟩]
      | .ok (.rootStart, _) => [⟨.rootStart, text⟩]
      | .ok (token, after) => ⟨token, text⟩ :: prologTokens ending after
termination_by text.length
decreasing_by
  all_goals
    first
    | (have shorter := scanPrologToken_le _read; simp only [List.length_cons]; omega)
    | (simp only [List.length_cons]; omega)

end RecordProjection.Markup
