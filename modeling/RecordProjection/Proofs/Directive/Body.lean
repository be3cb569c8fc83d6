import RecordProjection.Directive.Body
import RecordProjection.Proofs.Directive.Nesting
import RecordProjection.Proofs.Directive.Slicing

/-! The body of a directive. An annotation has a body if all that follows its path is a balanced
list in parentheses, and the body has the tokens of that list. -/

namespace RecordProjection.Directive
open Text

def behindPath (path note : String) : String := .ofList ((trim note).toList.drop path.length)

section Enclosing
variable {path note text : String} {opener closer : Token} {inner : List Token}

structure Encloses (tokens : List Token) (opener : Token) (inner : List Token) (closer : Token) :
    Prop where
  split : tokens = opener :: (inner ++ [closer])
  opens : opener.kind = .opening ∧ opener.text = "("
  closes : closer.IsCloser ")"
  within : Balanced inner

theorem body_of_encloses
    (encloses : Encloses (tokenize (behindPath path note)) opener inner closer) :
    body path note = .ok (slice (behindPath path note) opener.stop closer.start) := by
  obtain ⟨tokens, opens, closes, within⟩ := encloses
  have closing : closer.IsCloser (closerOf opener.text) := by rwa [opens.2]
  have found : matchingClose (opener :: (inner ++ [closer])) 0 = some (1 + inner.length) := by
    rw [matchingClose, List.drop_zero, closeFrom_enclosed opens.1 closing within, Nat.zero_add]
  have last : (opener :: (inner ++ [closer])).drop (1 + inner.length) = [closer] := by
    rw [Nat.add_comm, List.drop_succ_cons, List.drop_left]
  rw [behindPath] at tokens
  unfold body
  dsimp only
  rw [tokens]
  dsimp only
  rw [if_neg (not_not_intro opens.2), found]
  dsimp only
  rw [last]
  rfl

theorem encloses_of_body (read : body path note = .ok text) :
    ∃ opener inner closer, Encloses (tokenize (behindPath path note)) opener inner closer ∧
      text = slice (behindPath path note) opener.stop closer.start := by
  unfold body at read
  dsimp only at read
  split at read
  · cases read
  · rename_i opener rest tokens
    have lexical : opener.IsLexical := isLexical_of_mem_tokenize (tokens ▸ List.mem_cons_self)
    split at read
    · cases read
    · rename_i parenthesis
      rw [Decidable.not_not] at parenthesis
      have opens := lexical.opening parenthesis
      split at read
      · cases read
      · rename_i index found
        rw [tokens, matchingClose, List.drop_zero] at found
        obtain ⟨inner, closer, behind, split, within, closes, place⟩ :=
          enclosed_of_closeFrom opens found
        have rest_eq : (opener :: rest).drop index = closer :: behind := by
          rw [split, place, Nat.zero_add, Nat.add_comm, List.drop_succ_cons, List.drop_left]
        rw [tokens] at read
        rw [rest_eq] at read
        cases behind with
        | nil =>
          cases read
          rw [parenthesis] at closes
          refine ⟨opener, inner, closer, ⟨?_, ⟨opens, parenthesis⟩, closes, within⟩, rfl⟩
          rw [behindPath, tokens, split]
        | cons next others => cases read

theorem tokenize_of_encloses (encloses : Encloses (tokenize text) opener inner closer) :
    (tokenize (slice text opener.stop closer.start)).map (Token.moved opener.stop) = inner := by
  have tokens : tokenize text = [opener] ++ inner ++ [closer] := encloses.split
  have order := pairwise_scan 0 text.toList
  rw [← tokenize, tokens, List.append_assoc, List.singleton_append, List.pairwise_cons,
    List.pairwise_append] at order
  obtain ⟨opening, -, -, closing⟩ := order
  refine tokenize_slice tokens (List.forall_mem_singleton.2 (Nat.le_refl _)) ?_
    (List.forall_mem_singleton.2 (Nat.le_refl _)) (opening closer (by simp))
  exact fun token member => ⟨opening token (List.mem_append_left _ member),
    closing token member closer List.mem_cons_self⟩

theorem shapes_of_encloses (encloses : Encloses (tokenize text) opener inner closer) :
    (tokenize (slice text opener.stop closer.start)).map Token.shape = inner.map Token.shape := by
  rw [← shapes_moved opener.stop, tokenize_of_encloses encloses]

theorem tokenize_of_body (read : body path note = .ok text) :
    ∃ opener closer : Token, tokenize (behindPath path note) =
        opener :: ((tokenize text).map (Token.moved opener.stop) ++ [closer]) ∧
      opener.text = "(" ∧ closer.text = ")" := by
  obtain ⟨opener, inner, closer, encloses, rfl⟩ := encloses_of_body read
  refine ⟨opener, closer, ?_, encloses.opens.2, encloses.closes.2⟩
  rw [tokenize_of_encloses encloses]
  exact encloses.split

theorem balanced_of_body (read : body path note = .ok text) : Balanced (tokenize text) := by
  obtain ⟨opener, inner, closer, encloses, rfl⟩ := encloses_of_body read
  exact encloses.within.congr (shapes_of_encloses encloses).symm

end Enclosing

section Trimming

theorem Spaced.trimRight {words : List String} {text : List Char} (spaced : Spaced words text)
    (solid : ∀ word ∈ words, word.toList ≠ [] ∧ EndsSolid word.toList) :
    Spaced words (trimRight text) := by
  induction spaced with
  | done blank =>
    rw [trimRight_blank blank]
    exact .done (List.forall_mem_nil _)
  | @word gap text word words blank behind ih =>
    obtain ⟨⟨present, ends⟩, others⟩ := List.forall_mem_cons.1 solid
    rw [← List.append_assoc, trimRight_append (endsSolid_append present ends gap),
      List.append_assoc]
    exact .word blank (ih others)

theorem spaced_behindPath {path note : String} {words : List String}
    (spaced : Spaced (path :: words) note.toList)
    (solid : ∀ word ∈ path :: words, word.toList ≠ [] ∧ EndsSolid word.toList)
    (starts : StartsSolid path.toList) : Spaced words (behindPath path note).toList := by
  obtain ⟨⟨present, ends⟩, others⟩ := List.forall_mem_cons.1 solid
  generalize whole : note.toList = characters at spaced
  cases spaced with
  | @word gap text _ _ blank behind =>
    have left : trimLeft (gap ++ (path.toList ++ text)) = path.toList ++ text := by
      rw [trimLeft, List.dropWhile_append_of_pos blank, ← trimLeft,
        trimLeft_eq_self (startsSolid_append present starts text)]
    rw [behindPath, trim, whole, left, trimRight_append ends, String.toList_ofList,
      String.toList_ofList, ← String.length_toList, List.drop_left]
    exact behind.trimRight others

end Trimming

section Paths
variable {path note : String} {words : List String} {text : List Char}

/-- Neither a name nor a path goes on with a parenthesis, nor with the blanks before it. -/
theorem fresh_of_spaced_parenthesis (spaced : Spaced ("(" :: words) text) :
    StartsFresh text ∧ pathTail text = [] := by
  cases spaced with
  | @word gap text _ _ blank behind =>
    have fresh : StartsFresh ("(".toList ++ text) := by
      rintro c ⟨⟩
      decide
    refine ⟨startsFresh_append blank fresh, ?_⟩
    cases gap with
    | nil => rw [List.nil_append, pathTail.eq_def]; rfl
    | cons c rest =>
      have colon : c ≠ ':' := by
        rintro rfl
        exact absurd (blank ':' List.mem_cons_self) (by decide)
      rw [pathTail.eq_def]
      split
      · rename_i same
        exact absurd (List.cons.inj same).1 colon
      · rfl

theorem leadingIdent_append {word : List Char} (identifier : isIdentifier word = true)
    (fresh : StartsFresh text) : leadingIdent (word ++ text) = some (word, text) := by
  cases word with
  | nil => cases identifier
  | cons c rest =>
    rw [isIdentifier, Bool.and_eq_true, List.all_eq_true] at identifier
    obtain ⟨start, letters⟩ := identifier
    have taken : (rest ++ text).takeWhile isIdentChar = rest := by
      rw [takeWhile_append_word (isIdentChar_of_isIdentStart start) fun _ _ _ => fresh]
      exact List.takeWhile_eq_self_iff.2 letters
    have left : (rest ++ text).dropWhile isIdentChar = text := by
      have whole := List.takeWhile_append_dropWhile (p := isIdentChar) (l := rest ++ text)
      rw [taken] at whole
      exact List.append_cancel_left whole
    rw [List.cons_append, leadingIdent, if_pos start, taken, left]

theorem leadingPath_of_spaced (spaced : Spaced (path :: "(" :: words) note.toList)
    (identifier : isIdentifier path.toList = true) : leadingPath note = some path := by
  have word := isLexeme_of_isIdentifier identifier
  generalize whole : note.toList = characters at spaced
  cases spaced with
  | @word gap text _ _ blank behind =>
    obtain ⟨fresh, tail⟩ := fresh_of_spaced_parenthesis behind
    have left : trimLeft (gap ++ (path.toList ++ text)) = path.toList ++ text := by
      rw [trimLeft, List.dropWhile_append_of_pos blank, ← trimLeft,
        trimLeft_eq_self (startsSolid_append word.present word.startsSolid text)]
    rw [leadingPath, whole, left, leadingIdent_append identifier fresh]
    simp [tail]

end Paths

section Parentheses
variable {path text : String}

theorem behindPath_append (identifier : isIdentifier path.toList = true) (text : String) :
    behindPath path (path ++ ("(" ++ text ++ ")")) = "(" ++ text ++ ")" := by
  have word := isLexeme_of_isIdentifier identifier
  have trimmed : IsTrimmed (path ++ ("(" ++ text ++ ")")) := by
    apply isTrimmed_of_solid
    · rw [String.toList_append]
      exact startsSolid_append word.present word.startsSolid _
    · rw [String.toList_append, String.toList_append, ← List.append_assoc]
      exact endsSolid_append (by decide) (by rintro c ⟨⟩; decide) _
  rw [behindPath, trimmed, String.toList_append, ← String.length_toList, List.drop_left,
    String.ofList_toList]

theorem tokenize_enclosed {gap : String} (blank : ∀ c ∈ gap.toList, isBlank c = true)
    (text : String) :
    tokenize (gap ++ ("(" ++ text ++ ")")) = ⟨.opening, "(", gap.length, gap.length + 1⟩ ::
      ((tokenize text).map (Token.moved (gap.length + 1)) ++
        [⟨.closing, ")", gap.length + 1 + text.length, gap.length + 1 + text.length + 1⟩]) := by
  have ends : WordEnds text.toList ")".toList := by
    rintro - - - c ⟨⟩
    decide
  have inside := scan_moved 0 (gap.length + 1) text.toList
  rw [Nat.zero_add] at inside
  rw [tokenize, String.toList_append, scan_gap blank, String.toList_append, String.toList_append,
    Nat.zero_add, String.length_toList]
  change scan gap.length ('(' :: (text.toList ++ ")".toList)) = _
  rw [scan_solid (by decide)]
  change _ :: scan (gap.length + 1) (text.toList ++ ")".toList) = _
  rw [scan_append ends fun quoted => absurd quoted (by decide), scan_lexeme isLexeme_closing,
    inside, String.length_toList]
  rfl

theorem tokenize_parentheses (text : String) :
    tokenize ("(" ++ text ++ ")") = ⟨.opening, "(", 0, 1⟩ ::
      ((tokenize text).map (Token.moved 1) ++
        [⟨.closing, ")", 1 + text.length, 1 + text.length + 1⟩]) := by
  have blank : ∀ c ∈ "".toList, isBlank c = true := List.forall_mem_nil _
  exact tokenize_enclosed blank text

theorem encloses_enclosed {gap : String} (blank : ∀ c ∈ gap.toList, isBlank c = true)
    (balanced : Balanced (tokenize text)) :
    Encloses (tokenize (gap ++ ("(" ++ text ++ ")"))) ⟨.opening, "(", gap.length, gap.length + 1⟩
      ((tokenize text).map (Token.moved (gap.length + 1)))
      ⟨.closing, ")", gap.length + 1 + text.length, gap.length + 1 + text.length + 1⟩ :=
  ⟨tokenize_enclosed blank text, ⟨rfl, rfl⟩, ⟨rfl, rfl⟩,
    balanced.congr (shapes_moved (gap.length + 1) (tokenize text)).symm⟩

theorem body_of_behindPath {note gap : String} (blank : ∀ c ∈ gap.toList, isBlank c = true)
    (behind : behindPath path note = gap ++ ("(" ++ text ++ ")"))
    (balanced : Balanced (tokenize text)) : body path note = .ok text := by
  have encloses := encloses_enclosed blank balanced
  rw [← behind] at encloses
  rw [body_of_encloses encloses, behind, ← String.append_assoc, ← String.append_assoc]
  have inside := slice_middle (gap ++ "(") text ")"
  rw [String.length_append] at inside
  exact congrArg Except.ok inside

theorem body_parentheses (identifier : isIdentifier path.toList = true)
    (balanced : Balanced (tokenize text)) :
    body path (path ++ ("(" ++ text ++ ")")) = .ok text := by
  have blank : ∀ c ∈ "".toList, isBlank c = true := List.forall_mem_nil _
  refine body_of_behindPath blank ?_ balanced
  rw [behindPath_append identifier, String.empty_append]

end Parentheses

end RecordProjection.Directive
