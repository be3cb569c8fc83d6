import RecordProjection.Markup.Content
import RecordProjection.Markup.Writer
import RecordProjection.Proofs.Text.LineEnd
import RecordProjection.Proofs.Text.Name

/-! Escaped text is read as the text it was, but for its line ends. A character is written as itself
or as a reference, and whatever follows it is read from behind it; so texts and values are read
character by character. -/

namespace RecordProjection.Markup
open Text

def Legal (text : List Char) : Prop := ∀ c ∈ text, isLegal c = true

instance (text : List Char) : Decidable (Legal text) :=
  decidable_of_iff (text.all isLegal = true) List.all_eq_true

inductive Reference.StandsFor : Reference → Char → Prop
  | number (c : Char) : StandsFor (.character (some c)) c
  | predefined (name : List Char) {c : Char} (known : predefined? name = some c) :
    StandsFor (.entity name) c

def isMark (d : Char) : Bool := d.isAlphanum || d = '#' || d = ';'

/-- A character is spelled as itself, unless it is special, or as a reference. -/
inductive Spelling (special : List Char) (c : Char) : List Char → Prop
  | plain (ordinary : c ∉ special) : Spelling special c [c]
  | reference {body : List Char} {reference : Reference}
    (read : ∀ rest, scanReference (body ++ rest) = .ok (reference, rest))
    (stands : reference.StandsFor c) (marks : ∀ d ∈ body, isMark d = true) :
    Spelling special c ('&' :: body)

def textSpecial : List Char := ['&', '<', '>']

def valueSpecial : List Char := doubleQuote :: '\r' :: '\n' :: '\t' :: textSpecial

theorem spelling_escapeTextChar (c : Char) : Spelling textSpecial c (escapeTextChar c) := by
  unfold escapeTextChar
  by_cases ampersand : c = '&'
  · subst ampersand
    exact .reference (fun _ => rfl) (.predefined "amp".toList (by decide))
      (List.all_eq_true.1 (by decide))
  by_cases less : c = '<'
  · subst less
    exact .reference (fun _ => rfl) (.predefined "lt".toList (by decide))
      (List.all_eq_true.1 (by decide))
  by_cases greater : c = '>'
  · subst greater
    exact .reference (fun _ => rfl) (.predefined "gt".toList (by decide))
      (List.all_eq_true.1 (by decide))
  rw [if_neg ampersand, if_neg less, if_neg greater]
  exact .plain (by simp [textSpecial, ampersand, less, greater])

theorem spelling_escapeValueChar (c : Char) : Spelling valueSpecial c (escapeValueChar c) := by
  unfold escapeValueChar
  by_cases quote : c = doubleQuote
  · subst quote
    exact .reference (fun _ => rfl) (.predefined "quot".toList (by decide))
      (List.all_eq_true.1 (by decide))
  by_cases carriageReturn : c = '\r'
  · subst carriageReturn
    exact .reference (fun _ => rfl) (.number _) (List.all_eq_true.1 (by decide))
  by_cases lineFeed : c = '\n'
  · subst lineFeed
    exact .reference (fun _ => rfl) (.number _) (List.all_eq_true.1 (by decide))
  by_cases tab : c = '\t'
  · subst tab
    exact .reference (fun _ => rfl) (.number _) (List.all_eq_true.1 (by decide))
  rw [if_neg quote, if_neg carriageReturn, if_neg lineFeed, if_neg tab]
  generalize spelled : escapeTextChar c = text
  cases spelled ▸ spelling_escapeTextChar c with
  | plain ordinary =>
    exact .plain (by simp [valueSpecial, quote, carriageReturn, lineFeed, tab, ordinary])
  | reference read stands marks => exact .reference read stands marks

theorem expandValue_spelling (declarations : Declarations) {c : Char} {spelling : List Char}
    (spelled : Spelling valueSpecial c spelling) (rest : List Char) :
    expandValue declarations [] (spelling ++ rest) =
      joinTexts [c] (expandValue declarations [] rest) := by
  cases spelled with
  | plain ordinary =>
    simp only [valueSpecial, textSpecial, List.mem_cons, List.not_mem_nil, or_false, not_or]
      at ordinary
    obtain ⟨-, carriageReturn, lineFeed, tab, ampersand, less, -⟩ := ordinary
    have kept : (if isSpace c then ' ' else c) = c := by
      by_cases blank : c = ' ' <;> simp [isSpace, blank, lineFeed, tab, carriageReturn]
    rw [List.cons_append, expandValue, kept]
    · rfl
    · exact ampersand
    · exact less
    · exact fun _ absurdly => absurd absurdly carriageReturn
  | reference read stands marks =>
    rw [List.cons_append, expandValue, read]
    cases stands with
    | number => rfl
    | predefined name known => simp [known]

theorem expandValue_escapeValue (declarations : Declarations) (value : List Char) :
    expandValue declarations [] (escapeValue value) = .ok value := by
  induction value with
  | nil => simp [escapeValue, expandValue]
  | cons c rest ih =>
    rw [escapeValue, List.flatMap_cons, ← escapeValue,
      expandValue_spelling declarations (spelling_escapeValueChar c), ih]
    rfl

theorem scanValue_ordinary {c : Char} (mark : c ≠ doubleQuote) (ampersand : c ≠ '&')
    (less : c ≠ '<') (legal : isLegal c = true) (rest : List Char) :
    scanValue doubleQuote (c :: rest) = prepend c (scanValue doubleQuote rest) := by
  rw [scanValue]
  simp [mark, ampersand, less, legal]

theorem isLegal_of_range {c : Char} (low : 0x20 ≤ c.toNat) (high : c.toNat < 0xFFFE) :
    isLegal c = true := by
  simp only [isLegal]
  rw [if_neg (by omega)]
  simp
  omega

theorem scanValue_mark {d : Char} (mark : isMark d = true) (rest : List Char) :
    scanValue doubleQuote (d :: rest) = prepend d (scanValue doubleQuote rest) := by
  simp only [isMark, Bool.or_eq_true, decide_eq_true_eq] at mark
  rcases mark with (alphanumeric | rfl) | rfl
  · have range := range_of_isAlphanum alphanumeric
    refine scanValue_ordinary ?_ ?_ ?_ (isLegal_of_range (by omega) (by omega)) rest <;>
      rintro rfl <;> revert alphanumeric <;> decide
  · exact scanValue_ordinary (by decide) (by decide) (by decide) (by decide) rest
  · exact scanValue_ordinary (by decide) (by decide) (by decide) (by decide) rest

theorem scanValue_spelling {c : Char} {spelling : List Char} {value after : List Char}
    (spelled : Spelling valueSpecial c spelling) (legal : isLegal c = true) {rest : List Char}
    (read : scanValue doubleQuote rest = .ok (value, after)) :
    scanValue doubleQuote (spelling ++ rest) = .ok (spelling ++ value, after) := by
  cases spelled with
  | plain ordinary =>
    simp only [valueSpecial, textSpecial, List.mem_cons, not_or] at ordinary
    obtain ⟨mark, -, -, -, ampersand, less, -⟩ := ordinary
    rw [List.cons_append, List.nil_append, scanValue_ordinary mark ampersand less legal, read]
    rfl
  | @reference body reference reads stands marks =>
    have inside : scanValue doubleQuote (body ++ rest) = .ok (body ++ value, after) := by
      clear reads
      induction body with
      | nil => exact read
      | cons d body ih =>
        rw [List.cons_append, scanValue_mark (marks d List.mem_cons_self),
          ih fun e member => marks e (List.mem_cons_of_mem d member)]
        rfl
    rw [List.cons_append, scanValue, reads, inside]
    rfl

theorem scanValue_escapeValue {value : List Char} (rest : List Char)
    (legal : Legal value) :
    scanValue doubleQuote (escapeValue value ++ doubleQuote :: rest) =
      .ok (escapeValue value, rest) := by
  induction value with
  | nil => simp [escapeValue, scanValue]
  | cons c value ih =>
    have further := ih fun d member => legal d (List.mem_cons_of_mem c member)
    rw [escapeValue, List.flatMap_cons, ← escapeValue, List.append_assoc]
    exact scanValue_spelling (spelling_escapeValueChar c) (legal c List.mem_cons_self) further

/-- A reference stands for its character even where the character itself would be read as another
one. -/
theorem grow_reference (declarations : Declarations) (opened : List OpenElement) {c : Char}
    {text rest : List Char} {reference : Reference}
    (read : scanReference text = .ok (reference, rest)) (stands : reference.StandsFor c) :
    grow declarations [] 0 opened (pieces .complete ('&' :: text)) =
      grow declarations [] 0 (addText [c] opened) (pieces .complete rest) := by
  rw [pieces, read]
  cases stands with
  | number => rw [grow]
  | predefined name known =>
    rw [grow]
    simp [known]

theorem grow_ordinary (declarations : Declarations) (opened : List OpenElement) {c : Char}
    (ordinary : c ∉ textSpecial) (legal : isLegal c = true) (carriageReturn : c ≠ '\r')
    (rest : List Char) (apart : ∀ tail, rest ≠ ']' :: '>' :: tail) :
    grow declarations [] 0 opened (pieces .complete (c :: rest)) =
      grow declarations [] 0 (addText [c] opened) (pieces .complete rest) := by
  simp only [textSpecial, List.mem_cons, List.not_mem_nil, or_false, not_or] at ordinary
  obtain ⟨ampersand, less, -⟩ := ordinary
  rw [pieces, if_pos legal, grow]
  · exact less
  · exact ampersand
  · exact fun absurdly => absurd absurdly carriageReturn
  · exact fun _ absurdly => absurd absurdly carriageReturn
  · exact fun absurdly => absurd absurdly carriageReturn
  · rintro tail rfl same
    exact apart tail same

theorem grow_spelling (declarations : Declarations) (opened : List OpenElement) {c : Char}
    {spelling : List Char} (spelled : Spelling textSpecial c spelling) (legal : isLegal c = true)
    (carriageReturn : c ≠ '\r') (rest : List Char) (apart : ∀ tail, rest ≠ ']' :: '>' :: tail) :
    grow declarations [] 0 opened (pieces .complete (spelling ++ rest)) =
      grow declarations [] 0 (addText [c] opened) (pieces .complete rest) := by
  cases spelled with
  | plain ordinary =>
    exact grow_ordinary declarations opened ordinary legal carriageReturn rest apart
  | reference read stands => exact grow_reference declarations opened (read rest) stands

theorem addText_nil (opened : List OpenElement) : addText [] opened = opened := by
  cases opened with
  | nil => rfl
  | cons innermost outer =>
    simp only [addText, OpenElement.addText, List.reverse_nil, List.nil_append, ite_self]

theorem addText_addText (first second : List Char) (opened : List OpenElement) :
    addText second (addText first opened) = addText (first ++ second) opened := by
  cases opened with
  | nil => rfl
  | cons innermost outer =>
    cases childless : innermost.children.isEmpty <;>
      simp [addText, OpenElement.addText, childless]

theorem Spelling.unclosed {c : Char} {spelling : List Char}
    (spelled : Spelling textSpecial c spelling) : '>' ∉ spelling := by
  cases spelled with
  | plain ordinary =>
    rw [List.mem_singleton]
    rintro rfl
    exact ordinary (by decide)
  | reference read stands marks =>
    rw [List.mem_cons]
    rintro (ampersand | inside)
    · exact absurd ampersand (by decide)
    · exact absurd (marks _ inside) (by decide)

theorem unclosed_escapeText (text : List Char) : '>' ∉ escapeText text := by
  intro member
  obtain ⟨c, -, written⟩ := List.mem_flatMap.1 member
  exact (spelling_escapeTextChar c).unclosed written

theorem escapeText_ne_lineFeed {text : List Char} (apart : ∀ tail, text = '\n' :: tail → False)
    (rest tail : List Char) : escapeText text ++ '<' :: rest ≠ '\n' :: tail := by
  cases text with
  | nil => simp [escapeText]
  | cons c text =>
    have other : c ≠ '\n' := fun same => apart text (same ▸ rfl)
    rw [escapeText, List.flatMap_cons, ← escapeText]
    generalize spelled : escapeTextChar c = spelling
    cases spelled ▸ spelling_escapeTextChar c with
    | plain => simp [other]
    | reference => simp

theorem grow_lineBreak (declarations : Declarations) (opened : List OpenElement)
    (rest : List Char) :
    grow declarations [] 0 opened (pieces .complete ('\r' :: '\n' :: rest)) =
      grow declarations [] 0 (addText ['\n'] opened) (pieces .complete rest) := by
  rw [pieces, grow]

theorem grow_carriageReturn (declarations : Declarations) (opened : List OpenElement)
    {rest : List Char} (present : rest ≠ []) (alone : ∀ tail, rest ≠ '\n' :: tail) :
    grow declarations [] 0 opened (pieces .complete ('\r' :: rest)) =
      grow declarations [] 0 (addText ['\n'] opened) (pieces .complete rest) := by
  rw [pieces, grow]
  · exact present
  · exact alone

theorem grow_escapeText (declarations : Declarations) (opened : List OpenElement) {text : List Char}
    (legal : Legal text) (rest : List Char) :
    grow declarations [] 0 opened (pieces .complete (escapeText text ++ '<' :: rest)) =
      grow declarations [] 0 (addText (lineFeeds text) opened)
        (pieces .complete ('<' :: rest)) := by
  fun_induction lineFeeds text generalizing opened with
  | case1 =>
    rw [addText_nil]
    rfl
  | case2 text ih =>
    have written : escapeText ('\r' :: '\n' :: text) = '\r' :: '\n' :: escapeText text := rfl
    have others : Legal text := fun d member =>
      legal d (List.mem_cons_of_mem _ (List.mem_cons_of_mem _ member))
    rw [written, List.cons_append, List.cons_append, grow_lineBreak, ih _ others, addText_addText]
    rfl
  | case3 text alone ih =>
    have written : escapeText ('\r' :: text) = '\r' :: escapeText text := rfl
    have apart := escapeText_ne_lineFeed alone rest
    have others : Legal text := fun d member => legal d (List.mem_cons_of_mem _ member)
    rw [written, List.cons_append, grow_carriageReturn declarations opened (by simp) apart,
      ih _ others, addText_addText]
    rfl
  | case4 c text _ other ih =>
    have apart : ∀ tail, escapeText text ++ '<' :: rest ≠ ']' :: '>' :: tail := by
      intro tail same
      have unclosed := unclosed_escapeText text
      rcases written : escapeText text with _ | ⟨_, _ | ⟨d, others⟩⟩
      · simp [written] at same
      · simp [written] at same
      · simp only [written, List.cons_append, List.cons.injEq] at same
        exact unclosed (by simp [written, same.2.1])
    have others : Legal text := fun d member => legal d (List.mem_cons_of_mem c member)
    rw [escapeText, List.flatMap_cons, ← escapeText, List.append_assoc,
      grow_spelling declarations opened (spelling_escapeTextChar c) (legal c List.mem_cons_self)
        other _ apart, ih _ others, addText_addText]
    rfl

end RecordProjection.Markup
