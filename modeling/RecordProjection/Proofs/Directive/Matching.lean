import Mathlib.Data.List.Basic
import RecordProjection.Proofs.Directive.Lexeme

/-! Brackets that match. The word of brackets among some tokens says all that matching depends on: a
bracket is found if the word up to it is well nested and has no shorter beginning that is. -/

namespace RecordProjection.Directive

section Words

def bracketPairs : List (String × String) := [("(", ")"), ("[", "]"), ("\x7b", "\x7d")]

/-- Words of brackets in which every bracket is closed by one of its own kind, the inner brackets
before the outer ones. -/
inductive WellNested : List String → Prop
  | nil : WellNested []
  | around {opener closer : String} {inner rest : List String}
      (pair : (opener, closer) ∈ bracketPairs) (within : WellNested inner)
      (behind : WellNested rest) : WellNested (opener :: (inner ++ closer :: rest))

def Token.isBracket (token : Token) : Bool := token.kind = .opening || token.kind = .closing

def bracketWord (tokens : List Token) : List String :=
  (tokens.filter Token.isBracket).map Token.text

variable {token : Token} {gap tokens : List Token}

theorem isBracket_eq_false_iff : token.isBracket = false ↔ token.IsPlain := by
  simp [Token.isBracket, Token.IsPlain]

theorem isBracket_of_opening (opens : token.kind = .opening) : token.isBracket = true := by
  simp [Token.isBracket, opens]

theorem isBracket_of_closing (closes : token.kind = .closing) : token.isBracket = true := by
  simp [Token.isBracket, closes]

theorem bracketWord_append (first second : List Token) :
    bracketWord (first ++ second) = bracketWord first ++ bracketWord second := by
  rw [bracketWord, List.filter_append, List.map_append]
  rfl

theorem bracketWord_bracket (bracket : token.isBracket = true) (rest : List Token) :
    bracketWord (token :: rest) = token.text :: bracketWord rest := by
  rw [bracketWord, List.filter_cons_of_pos bracket, List.map_cons]
  rfl

theorem bracketWord_plain (plain : ∀ token ∈ gap, token.IsPlain) : bracketWord gap = [] := by
  rw [bracketWord, List.map_eq_nil_iff, List.filter_eq_nil_iff]
  intro token member
  rw [isBracket_eq_false_iff.2 (plain token member)]
  exact Bool.false_ne_true

theorem bracketWord_eq_cons {text : String} {more : List String}
    (word : bracketWord tokens = text :: more) :
    ∃ gap token rest, tokens = gap ++ token :: rest ∧ (∀ other ∈ gap, other.IsPlain) ∧
      token.text = text ∧ bracketWord rest = more := by
  obtain ⟨token, brackets, filtered, same, behind⟩ := List.map_eq_cons_iff.1 word
  obtain ⟨gap, rest, split, plain, -, others⟩ := List.filter_eq_cons_iff.1 filtered
  refine ⟨gap, token, rest, split, fun other member => ?_, same, ?_⟩
  · exact isBracket_eq_false_iff.1 (Bool.eq_false_iff.2 (plain other member))
  · rw [bracketWord, others, behind]

theorem bracketWord_eq_append {first second : List String}
    (word : bracketWord tokens = first ++ second) :
    ∃ front rest, tokens = front ++ rest ∧ bracketWord front = first ∧
      bracketWord rest = second := by
  obtain ⟨brackets, others, filtered, same, behind⟩ := List.map_eq_append_iff.1 word
  obtain ⟨front, rest, split, one, other⟩ := List.filter_eq_append_iff.1 filtered
  exact ⟨front, rest, split, by rw [bracketWord, one, same], by rw [bracketWord, other, behind]⟩

end Words

section Lexical
variable {token closer : Token} {tokens : List Token}

theorem opener_of_isLexeme {word : List Char} (lexeme : IsLexeme .opening word) :
    word = ['('] ∨ word = ['['] ∨ word = ['\x7b'] := by
  obtain ⟨c, rest, rfl, -, reading⟩ := lexeme
  by_cases bracket : (c = '(' || c = '[' || c = '\x7b') = true
  · simp only [Bool.or_eq_true, decide_eq_true_eq] at bracket
    have alone : rest = [] := by
      rcases bracket with (rfl | rfl) | rfl <;>
        exact List.length_eq_zero_iff.1 (Prod.mk.inj reading).2.symm
    simpa [alone, or_assoc] using bracket
  · -- Whatever else a token starts with, it is no opening bracket.
    unfold extent at reading
    rw [if_neg bracket] at reading
    repeat' split at reading
    all_goals cases (Prod.mk.inj reading).1

theorem isLexeme_bracket {opener closer : String} (pair : (opener, closer) ∈ bracketPairs) :
    closerOf opener = closer ∧ IsLexeme .opening opener.toList ∧
      IsLexeme .closing closer.toList := by
  simp only [bracketPairs, List.mem_cons, Prod.mk.injEq, List.not_mem_nil, or_false] at pair
  rcases pair with ⟨rfl, rfl⟩ | ⟨rfl, rfl⟩ | ⟨rfl, rfl⟩
  · exact ⟨rfl, ⟨_, [], rfl, by decide, rfl⟩, ⟨_, [], rfl, by decide, rfl⟩⟩
  · exact ⟨rfl, ⟨_, [], rfl, by decide, rfl⟩, ⟨_, [], rfl, by decide, rfl⟩⟩
  · exact ⟨rfl, ⟨_, [], rfl, by decide, rfl⟩, ⟨_, [], rfl, by decide, rfl⟩⟩

theorem Token.IsLexical.pair (lexical : token.IsLexical) (opens : token.kind = .opening) :
    (token.text, closerOf token.text) ∈ bracketPairs := by
  have word := opener_of_isLexeme (opens ▸ lexical.lexeme)
  have same : ∀ text : String, token.text.toList = text.toList → token.text = text :=
    fun _ => String.toList_inj.1
  rcases word with parenthesis | bracket | brace
  · rw [same "(" parenthesis]
    decide
  · rw [same "[" bracket]
    decide
  · rw [same "\x7b" brace]
    decide

theorem wellNested_of_balanced (lexical : ∀ token ∈ tokens, token.IsLexical)
    (balanced : Balanced tokens) : WellNested (bracketWord tokens) := by
  induction balanced with
  | nil => exact .nil
  | @plain token rest plain _ ih =>
    rw [← List.singleton_append, bracketWord_append,
      bracketWord_plain (List.forall_mem_singleton.2 plain), List.nil_append]
    exact ih (List.forall_mem_cons.1 lexical).2
  | @nested opener closer inner rest opens closes _ _ within behind =>
    obtain ⟨own, others⟩ := List.forall_mem_cons.1 lexical
    obtain ⟨inside, later⟩ := List.forall_mem_append.1 others
    rw [bracketWord_bracket (isBracket_of_opening opens), bracketWord_append,
      bracketWord_bracket (isBracket_of_closing closes.1), closes.2]
    exact .around (own.pair opens) (within inside) (behind (List.forall_mem_cons.1 later).2)

theorem balanced_of_plain {gap : List Token} (plain : ∀ token ∈ gap, token.IsPlain) :
    Balanced gap := by
  induction gap with
  | nil => exact .nil
  | cons token rest ih =>
    obtain ⟨own, others⟩ := List.forall_mem_cons.1 plain
    exact .plain own (ih others)

theorem balanced_of_wellNested (lexical : ∀ token ∈ tokens, token.IsLexical)
    (nested : WellNested (bracketWord tokens)) : Balanced tokens := by
  generalize spelled : bracketWord tokens = word at nested
  induction nested generalizing tokens with
  | nil =>
    rw [bracketWord, List.map_eq_nil_iff, List.filter_eq_nil_iff] at spelled
    exact balanced_of_plain fun token member =>
      isBracket_eq_false_iff.1 (Bool.eq_false_iff.2 (spelled token member))
  | around pair _ _ within behind =>
    obtain ⟨before, opener, later, rfl, gap, opens, spelled⟩ := bracketWord_eq_cons spelled
    obtain ⟨inner, rest, rfl, inside, spelled⟩ := bracketWord_eq_append spelled
    obtain ⟨between, closer, rest, rfl, space, closes, others⟩ := bracketWord_eq_cons spelled
    obtain ⟨same, opening, closing⟩ := isLexeme_bracket pair
    simp only [List.forall_mem_append, List.forall_mem_cons] at lexical
    obtain ⟨-, own, inner_lexical, -, last, rest_lexical⟩ := lexical
    have opener_kind : opener.kind = .opening := own.kind_eq (opens ▸ opening)
    have closer_own : closer.IsCloser (closerOf opener.text) :=
      ⟨last.kind_eq (closes ▸ closing), by rw [opens, same, closes]⟩
    have enclosed := Balanced.nested opener_kind closer_own
      ((within inner_lexical inside).append (balanced_of_plain space))
      (behind rest_lexical others)
    rw [List.append_assoc] at enclosed
    exact (balanced_of_plain gap).append enclosed

end Lexical

section Matching
variable {token : Token} {index first last : Nat} {owed : List String}
  {gap tokens rest : List Token}

theorem closeFrom_gap (plain : ∀ token ∈ gap, token.IsPlain) :
    closeFrom index owed (gap ++ rest) = closeFrom (index + gap.length) owed rest := by
  induction gap generalizing index with
  | nil => rfl
  | cons token others ih =>
    obtain ⟨own, behind⟩ := List.forall_mem_cons.1 plain
    rw [List.cons_append, closeFrom_plain own, ih behind, List.length_cons]
    congr 1
    omega

structure Surrounds (tokens gap : List Token) (opener : Token) (inner : List Token)
    (closer : Token) (rest : List Token) : Prop where
  split : tokens = gap ++ opener :: (inner ++ closer :: rest)
  plain : ∀ token ∈ gap, token.IsPlain
  opens : opener.kind = .opening
  closes : closer.IsCloser (closerOf opener.text)
  within : Balanced inner

theorem surrounds_of_closeFrom (found : closeFrom index [] tokens = some last) :
    ∃ gap opener inner closer rest, Surrounds tokens gap opener inner closer rest ∧
      last = index + gap.length + 1 + inner.length := by
  induction tokens generalizing index with
  | nil => cases found
  | cons token others ih =>
    by_cases opens : token.kind = .opening
    · obtain ⟨inner, closer, rest, split, within, closes, place⟩ :=
        enclosed_of_closeFrom opens found
      exact ⟨[], token, inner, closer, rest,
        ⟨by rw [split, List.nil_append], List.forall_mem_nil _, opens, closes, within⟩, place⟩
    · by_cases closes : token.kind = .closing
      · -- Nothing is open that the bracket could close.
        obtain ⟨outer, none⟩ := closer_of_closeFrom closes found
        cases none
      · have plain : token.IsPlain := ⟨opens, closes⟩
        rw [closeFrom_plain plain] at found
        obtain ⟨gap, opener, inner, closer, rest, surrounds, place⟩ := ih found
        refine ⟨token :: gap, opener, inner, closer, rest,
          ⟨by rw [surrounds.split, List.cons_append],
            List.forall_mem_cons.2 ⟨plain, surrounds.plain⟩, surrounds.opens, surrounds.closes,
            surrounds.within⟩, ?_⟩
        rw [List.length_cons]
        omega

theorem Surrounds.closeFrom {opener closer : Token} {inner : List Token}
    (surrounds : Surrounds tokens gap opener inner closer rest) (index : Nat) :
    closeFrom index [] tokens = some (index + gap.length + 1 + inner.length) := by
  rw [surrounds.split, closeFrom_gap surrounds.plain,
    closeFrom_enclosed surrounds.opens surrounds.closes surrounds.within]

def stretch (tokens : List Token) (first last : Nat) : List Token :=
  (tokens.take (last + 1)).drop first

/-- Whether the search for a matching bracket from one place ends at another: there a bracket
closes, the brackets up to it are well nested, and those up to any bracket before it are not. -/
structure IsMatch (tokens : List Token) (first last : Nat) : Prop where
  reached : first ≤ last
  closes : ∃ closer, tokens[last]? = some closer ∧ closer.kind = .closing
  nested : WellNested (bracketWord (stretch tokens first last))
  earliest : ∀ front, front <+: bracketWord (stretch tokens first last) → front ≠ [] →
    front ≠ bracketWord (stretch tokens first last) → ¬ WellNested front

theorem stretch_of_split {front : List Token} (split : tokens.drop first = front ++ token :: rest) :
    stretch tokens first (first + front.length) = front ++ [token] ∧
      tokens[first + front.length]? = some token := by
  constructor
  · have count : first + front.length + 1 - first = front.length + 1 := by omega
    rw [stretch, List.drop_take, split, count, List.take_length_add_append]
    rfl
  · rw [← List.getElem?_drop, split, List.getElem?_append_right (Nat.le_refl _), Nat.sub_self]
    rfl

/-- A beginning of a list in brackets that has some of its brackets, but not all of them, is not
balanced. -/
theorem Surrounds.not_balanced {opener closer : Token} {inner front : List Token}
    (surrounds : Surrounds (front ++ tokens) gap opener inner closer rest)
    (some_bracket : bracketWord front ≠ [])
    (short : front.length < gap.length + 1 + inner.length + 1) : ¬ Balanced front := by
  intro balanced
  rcases List.append_eq_append_iff.1 surrounds.split with ⟨middle, whole, -⟩ | ⟨middle, whole, tail⟩
  · have plain := surrounds.plain
    rw [whole] at plain
    exact some_bracket (bracketWord_plain fun token member =>
      plain token (List.mem_append_left _ member))
  · cases middle with
    | nil =>
      rw [List.append_nil] at whole
      exact some_bracket (whole ▸ bracketWord_plain surrounds.plain)
    | cons head middle =>
      obtain ⟨rfl, behind⟩ := List.cons.inj tail
      have depth := balanced.nesting_eq_zero
      rw [whole, nesting_append, nesting_cons, nesting_opening surrounds.opens,
        (balanced_of_plain surrounds.plain).nesting_eq_zero] at depth
      rcases List.append_eq_append_iff.1 behind with ⟨others, split, -⟩ | ⟨others, inner_eq, -⟩
      · cases others with
        | nil =>
          rw [List.append_nil] at split
          rw [split, surrounds.within.nesting_eq_zero] at depth
          omega
        | cons final others =>
          rw [whole, split] at short
          simp only [List.length_append, List.length_cons] at short
          omega
      · have open_ := (inner_eq ▸ surrounds.within).cut.1
        omega

theorem isMatch_of_surrounds {opener closer : Token} {inner : List Token}
    (lexical : ∀ token ∈ tokens, token.IsLexical)
    (surrounds : Surrounds (tokens.drop first) gap opener inner closer rest) :
    IsMatch tokens first (first + gap.length + 1 + inner.length) := by
  have split : tokens.drop first = (gap ++ opener :: inner) ++ closer :: rest := by
    rw [surrounds.split, List.append_assoc, List.cons_append]
  obtain ⟨reach, found⟩ := stretch_of_split split
  have place : first + gap.length + 1 + inner.length = first + (gap ++ opener :: inner).length := by
    rw [List.length_append, List.length_cons]
    omega
  have own : ∀ token ∈ gap ++ opener :: inner ++ [closer], token.IsLexical := by
    intro token member
    refine lexical token (List.drop_subset first tokens ?_)
    rw [split, List.append_cons]
    exact List.mem_append_left _ member
  rw [place]
  refine ⟨Nat.le_add_right _ _, ⟨closer, found, surrounds.closes.1⟩, ?_, ?_⟩
  · rw [reach]
    refine wellNested_of_balanced own ?_
    rw [List.append_assoc, List.cons_append]
    exact (balanced_of_plain surrounds.plain).append
      (.enclosed surrounds.opens surrounds.closes surrounds.within)
  · rintro front ⟨others, whole⟩ present proper nested
    rw [reach] at whole proper
    obtain ⟨start, behind, cut, rfl, rfl⟩ := bracketWord_eq_append whole.symm
    have left : behind ≠ [] := by
      rintro rfl
      rw [List.append_nil] at cut
      exact proper (congrArg bracketWord cut.symm)
    have begins : Surrounds (start ++ (behind ++ rest)) gap opener inner closer rest := by
      rw [← List.append_assoc, ← cut]
      exact { surrounds with split := by simp }
    refine begins.not_balanced present ?_
      (balanced_of_wellNested (fun token member => own token (cut ▸ List.mem_append_left _ member))
        nested)
    have lengths := congrArg List.length cut
    have some_left := List.length_pos_iff.2 left
    simp only [List.length_append, List.length_cons, List.length_nil] at lengths
    omega

theorem split_of_getElem? (reached : first ≤ last) (found : tokens[last]? = some token) :
    ∃ front rest, tokens.drop first = front ++ token :: rest ∧ first + front.length = last := by
  have stands : (tokens.drop first)[last - first]? = some token := by
    rw [List.getElem?_drop, Nat.add_sub_cancel' reached, found]
  obtain ⟨inside, same⟩ := List.getElem?_eq_some_iff.1 stands
  refine ⟨(tokens.drop first).take (last - first), (tokens.drop first).drop (last - first + 1),
    ?_, ?_⟩
  · rw [← same, List.getElem_cons_drop, List.take_append_drop]
  · rw [List.length_take_of_le (Nat.le_of_lt inside)]
    omega

theorem WellNested.closed_by_last {word : List String} (nested : WellNested word)
    (present : word ≠ [])
    (earliest : ∀ front, front <+: word → front ≠ [] → front ≠ word → ¬ WellNested front) :
    ∃ opener inner closer, word = opener :: inner ++ [closer] ∧
      (opener, closer) ∈ bracketPairs ∧ WellNested inner := by
  cases nested with
  | nil => exact absurd rfl present
  | @around opener closer inner rest pair within behind =>
    refine ⟨opener, inner, closer, ?_, pair, within⟩
    by_contra proper
    exact earliest _ ⟨rest, by simp⟩ (List.cons_ne_nil _ _) (Ne.symm proper)
      (.around pair within .nil)

theorem surrounds_of_isMatch (lexical : ∀ token ∈ tokens, token.IsLexical)
    (matched : IsMatch tokens first last) :
    ∃ gap opener inner closer rest, Surrounds (tokens.drop first) gap opener inner closer rest ∧
      last = first + gap.length + 1 + inner.length := by
  obtain ⟨reached, ⟨closer, found, closes⟩, nested, earliest⟩ := matched
  obtain ⟨front, rest, split, rfl⟩ := split_of_getElem? reached found
  have word : bracketWord (front ++ [closer]) = bracketWord front ++ [closer.text] := by
    rw [bracketWord_append, bracketWord_bracket (isBracket_of_closing closes)]
    rfl
  rw [(stretch_of_split split).1, word] at nested earliest
  obtain ⟨opening, inner, closing, whole, pair, within⟩ :=
    nested.closed_by_last (List.concat_ne_nil _ _) earliest
  obtain ⟨opened, last_text⟩ := List.append_inj' whole rfl
  obtain ⟨gap, opener, inside, rfl, plain, opener_text, rfl⟩ := bracketWord_eq_cons opened
  have own : ∀ token ∈ gap ++ opener :: inside, token.IsLexical := fun token member =>
    lexical token (List.drop_subset first tokens (split ▸ List.mem_append_left _ member))
  obtain ⟨-, opener_own, inside_own⟩ :=
    (List.forall_mem_append.1 own).imp_right List.forall_mem_cons.1
  obtain ⟨same, lexeme, -⟩ := isLexeme_bracket pair
  refine ⟨gap, opener, inside, closer, rest, ⟨?_, plain, ?_, ⟨closes, ?_⟩, ?_⟩, ?_⟩
  · rw [split, List.append_assoc, List.cons_append]
  · exact opener_own.kind_eq (opener_text ▸ lexeme)
  · rw [opener_text, same]
    exact (List.cons.inj last_text).1
  · exact balanced_of_wellNested inside_own within
  · rw [List.length_append, List.length_cons]
    omega

theorem matchingClose_eq_some_iff (lexical : ∀ token ∈ tokens, token.IsLexical) :
    matchingClose tokens first = some last ↔ IsMatch tokens first last := by
  constructor
  · intro found
    obtain ⟨gap, opener, inner, closer, rest, surrounds, rfl⟩ := surrounds_of_closeFrom found
    exact isMatch_of_surrounds lexical surrounds
  · intro matched
    obtain ⟨gap, opener, inner, closer, rest, surrounds, rfl⟩ :=
      surrounds_of_isMatch lexical matched
    exact surrounds.closeFrom first

end Matching

end RecordProjection.Directive
