import RecordProjection.Directive.Bracket

/-! Nested brackets. A list of tokens is balanced if every bracket in it is closed by its own
closer, the inner brackets before the outer ones. Matching finds the end of such a list, and the
depth, which only counts, is never below its start within one. -/

namespace RecordProjection.Directive

def Token.IsPlain (token : Token) : Prop := token.kind ≠ .opening ∧ token.kind ≠ .closing

def Token.IsCloser (token : Token) (text : String) : Prop :=
  token.kind = .closing ∧ token.text = text

inductive Balanced : List Token → Prop
  | nil : Balanced []
  | plain {token : Token} {rest : List Token} (plain : token.IsPlain) (behind : Balanced rest) :
      Balanced (token :: rest)
  | nested {opener closer : Token} {inner rest : List Token} (opens : opener.kind = .opening)
      (closes : closer.IsCloser (closerOf opener.text)) (within : Balanced inner)
      (behind : Balanced rest) : Balanced (opener :: (inner ++ closer :: rest))

theorem Balanced.append {first second : List Token} (one : Balanced first)
    (other : Balanced second) : Balanced (first ++ second) := by
  induction one with
  | nil => exact other
  | plain plain _ ih => exact .plain plain ih
  | nested opens closes within _ _ ih =>
    rw [List.cons_append, List.append_assoc, List.cons_append]
    exact .nested opens closes within ih

theorem Balanced.enclosed {opener closer : Token} {inner : List Token}
    (opens : opener.kind = .opening) (closes : closer.IsCloser (closerOf opener.text))
    (within : Balanced inner) : Balanced (opener :: (inner ++ [closer])) :=
  .nested opens closes within .nil

section Matching
variable {token : Token} {index last : Nat} {owed : List String} {tokens rest : List Token}

theorem closeFrom_opening (opens : token.kind = .opening) :
    closeFrom index owed (token :: rest) =
      closeFrom (index + 1) (closerOf token.text :: owed) rest := by
  rw [closeFrom.eq_def]
  simp only [opens]

theorem closeFrom_plain (plain : token.IsPlain) :
    closeFrom index owed (token :: rest) = closeFrom (index + 1) owed rest := by
  rw [closeFrom.eq_def]
  cases kind : token.kind with
  | opening => exact absurd kind plain.1
  | closing => exact absurd kind plain.2
  | _ => simp only [kind]

theorem closeFrom_closer {closer : String} (closes : token.IsCloser closer) :
    closeFrom index (closer :: owed) (token :: rest) =
      if owed.isEmpty then some index else closeFrom (index + 1) owed rest := by
  rw [closeFrom.eq_def]
  simp only [closes.1]
  exact if_neg (not_not_intro closes.2.symm)

theorem closer_of_closeFrom (closes : token.kind = .closing)
    (found : closeFrom index owed (token :: rest) = some last) :
    ∃ outer, owed = token.text :: outer := by
  rw [closeFrom.eq_def] at found
  simp only [closes] at found
  cases owed with
  | nil => cases found
  | cons closer outer =>
    by_cases different : closer ≠ token.text
    · simp [different] at found
    · exact ⟨outer, by rw [Decidable.not_not.1 different]⟩

/-- Nothing is owed less or more after a balanced list. -/
theorem closeFrom_balanced {inner : List Token} (balanced : Balanced inner) (closer : String) :
    closeFrom index (closer :: owed) (inner ++ rest) =
      closeFrom (index + inner.length) (closer :: owed) rest := by
  induction balanced generalizing index owed rest closer with
  | nil => rfl
  | plain plain _ ih =>
    rw [List.cons_append, closeFrom_plain plain, ih, List.length_cons]
    congr 1
    omega
  | @nested opener closing inner others opens closes _ _ within behind =>
    rw [List.cons_append, closeFrom_opening opens, List.append_assoc, List.cons_append, within,
      closeFrom_closer closes, if_neg (by simp), behind]
    simp only [List.length_cons, List.length_append]
    congr 1
    omega

inductive Settles : List String → List Token → Prop
  | done : Settles [] []
  | pay {closer : String} {owed : List String} {token : Token} {inner rest : List Token}
      (within : Balanced inner) (closes : token.IsCloser closer) (behind : Settles owed rest) :
      Settles (closer :: owed) (inner ++ token :: rest)

theorem Settles.plain {paid : List Token} (plain : token.IsPlain) (debt : owed ≠ [])
    (settles : Settles owed paid) : Settles owed (token :: paid) := by
  cases settles with
  | done => exact absurd rfl debt
  | pay within closes behind => exact .pay (.plain plain within) closes behind

theorem Settles.opening {paid : List Token} (opens : token.kind = .opening) (debt : owed ≠ [])
    (settles : Settles (closerOf token.text :: owed) paid) : Settles owed (token :: paid) := by
  cases settles with
  | pay within closes behind =>
    cases behind with
    | done => exact absurd rfl debt
    | pay further outer behind =>
      have joined := Settles.pay (.nested opens closes within further) outer behind
      rwa [List.cons_append, List.append_assoc, List.cons_append] at joined

theorem settles_of_closeFrom (debt : owed ≠ []) (found : closeFrom index owed tokens = some last) :
    ∃ paid rest, tokens = paid ++ rest ∧ Settles owed paid ∧ last + 1 = index + paid.length := by
  induction tokens generalizing index owed with
  | nil => cases found
  | cons token rest ih =>
    by_cases opens : token.kind = .opening
    · rw [closeFrom_opening opens] at found
      obtain ⟨paid, behind, split, settles, place⟩ := ih (List.cons_ne_nil _ _) found
      refine ⟨token :: paid, behind, by rw [split, List.cons_append],
        settles.opening opens debt, ?_⟩
      rw [List.length_cons]
      omega
    · by_cases closes : token.kind = .closing
      · obtain ⟨outer, rfl⟩ := closer_of_closeFrom closes found
        rw [closeFrom_closer ⟨closes, rfl⟩] at found
        cases outer with
        | nil =>
          cases found
          exact ⟨[token], rest, rfl, .pay .nil ⟨closes, rfl⟩ .done, rfl⟩
        | cons closer outer =>
          rw [if_neg (by simp)] at found
          obtain ⟨paid, behind, split, settles, place⟩ := ih (List.cons_ne_nil _ _) found
          refine ⟨token :: paid, behind, by rw [split, List.cons_append],
            .pay .nil ⟨closes, rfl⟩ settles, ?_⟩
          rw [List.length_cons]
          omega
      · have plain : token.IsPlain := ⟨opens, closes⟩
        rw [closeFrom_plain plain] at found
        obtain ⟨paid, behind, split, settles, place⟩ := ih debt found
        refine ⟨token :: paid, behind, by rw [split, List.cons_append],
          settles.plain plain debt, ?_⟩
        rw [List.length_cons]
        omega

theorem closeFrom_enclosed {closer : Token} {inner : List Token} (opens : token.kind = .opening)
    (closes : closer.IsCloser (closerOf token.text)) (within : Balanced inner) :
    closeFrom index [] (token :: (inner ++ closer :: rest)) = some (index + 1 + inner.length) := by
  rw [closeFrom_opening opens, closeFrom_balanced within, closeFrom_closer closes]
  rfl

theorem enclosed_of_closeFrom (opens : token.kind = .opening)
    (found : closeFrom index [] (token :: tokens) = some last) :
    ∃ inner closer rest, tokens = inner ++ closer :: rest ∧ Balanced inner ∧
      closer.IsCloser (closerOf token.text) ∧ last = index + 1 + inner.length := by
  rw [closeFrom_opening opens] at found
  obtain ⟨paid, rest, split, settles, place⟩ :=
    settles_of_closeFrom (List.cons_ne_nil _ _) found
  cases settles with
  | pay within closes behind =>
    cases behind
    refine ⟨_, _, rest, by rw [split, List.append_assoc]; rfl, within, closes, ?_⟩
    rw [List.length_append, List.length_singleton] at place
    omega

end Matching

def nesting (tokens : List Token) : Int :=
  (tokens.countP (·.kind = .opening) : Int) - tokens.countP (·.kind = .closing)

theorem nesting_nil : nesting [] = 0 := rfl

theorem depthAfter_eq (depth : Int) (token : Token) :
    depthAfter depth token = depth + nesting [token] := by
  cases kind : token.kind <;> simp [depthAfter, nesting, kind]; omega

@[simp] theorem nesting_append (first second : List Token) :
    nesting (first ++ second) = nesting first + nesting second := by
  simp only [nesting, List.countP_append]
  omega

theorem nesting_cons (token : Token) (rest : List Token) :
    nesting (token :: rest) = nesting [token] + nesting rest :=
  nesting_append [token] rest

theorem nesting_plain {token : Token} (plain : token.IsPlain) : nesting [token] = 0 := by
  simp [nesting, plain.1, plain.2]

theorem nesting_opening {token : Token} (opens : token.kind = .opening) : nesting [token] = 1 := by
  simp [nesting, opens]

theorem nesting_closing {token : Token} (closes : token.kind = .closing) :
    nesting [token] = -1 := by
  simp [nesting, closes]

namespace Balanced

theorem nesting_eq_zero {tokens : List Token} (balanced : Balanced tokens) :
    nesting tokens = 0 := by
  induction balanced with
  | nil => rfl
  | plain plain _ ih => rw [nesting_cons, nesting_plain plain, ih, Int.add_zero]
  | @nested opener closer inner rest opens closes _ _ within behind =>
    rw [nesting_cons, nesting_append, nesting_cons closer, nesting_opening opens,
      nesting_closing closes.1, within, behind]
    rfl

/-- A balanced list never closes more than it has opened; where it has closed all, it can be cut in
two. -/
theorem cut {first second : List Token} (balanced : Balanced (first ++ second)) :
    0 ≤ nesting first ∧ (nesting first = 0 → Balanced first ∧ Balanced second) := by
  generalize whole : first ++ second = tokens at balanced
  induction balanced generalizing first second with
  | nil =>
    obtain ⟨rfl, rfl⟩ := List.append_eq_nil_iff.1 whole
    exact ⟨Int.le_refl 0, fun _ => ⟨.nil, .nil⟩⟩
  | @plain token rest plain behind ih =>
    cases first with
    | nil => exact ⟨Int.le_refl 0, fun _ => ⟨.nil, by
      rw [show second = token :: rest from whole]
      exact .plain plain behind⟩⟩
    | cons head first =>
      obtain ⟨rfl, split⟩ := List.cons.inj whole
      obtain ⟨open_, parts⟩ := ih split
      rw [nesting_cons, nesting_plain plain, Int.zero_add]
      exact ⟨open_, fun closed => ⟨.plain plain (parts closed).1, (parts closed).2⟩⟩
  | @nested opener closer inner rest opens closes within behind inside outside =>
    cases first with
    | nil => exact ⟨Int.le_refl 0, fun _ => ⟨.nil, by
      rw [show second = opener :: (inner ++ closer :: rest) from whole]
      exact .nested opens closes within behind⟩⟩
    | cons head first =>
      obtain ⟨rfl, split⟩ := List.cons.inj whole
      rw [nesting_cons, nesting_opening opens]
      -- The cut is either inside of the bracket, at a positive depth, or behind its closer.
      rcases List.append_eq_append_iff.1 split with ⟨middle, inner_eq, -⟩ | ⟨middle, first_eq, tail⟩
      · have depth := (inside inner_eq.symm).1
        exact ⟨by omega, fun closed => by omega⟩
      · cases middle with
        | nil =>
          rw [first_eq, List.append_nil, within.nesting_eq_zero]
          exact ⟨by omega, fun closed => by omega⟩
        | cons closing middle =>
          obtain ⟨rfl, remaining⟩ := List.cons.inj tail
          obtain ⟨depth, parts⟩ := outside remaining.symm
          rw [first_eq, nesting_append, nesting_cons closer, nesting_closing closes.1,
            within.nesting_eq_zero]
          exact ⟨by omega, fun closed =>
            have halves := parts (by omega)
            ⟨.nested opens closes within halves.1, halves.2⟩⟩

end Balanced

/-- What brackets and commas are told by: not where a token stands. -/
def Token.shape (token : Token) : TokenKind × String := (token.kind, token.text)

section Shapes
variable {first second : List Token} (same : first.map Token.shape = second.map Token.shape)
include same

theorem nesting_congr : nesting first = nesting second := by
  have count : ∀ (kind : TokenKind) (tokens : List Token),
      tokens.countP (·.kind = kind) = (tokens.map Token.shape).countP (·.1 = kind) := by
    intro kind tokens
    rw [List.countP_map]
    rfl
  rw [nesting, nesting, count, count, count .opening second, count .closing second, same]

theorem Balanced.congr (balanced : Balanced first) : Balanced second := by
  induction balanced generalizing second with
  | nil =>
    rw [List.map_nil, eq_comm, List.map_eq_nil_iff] at same
    exact same ▸ .nil
  | plain plain _ ih =>
    obtain ⟨token, rest, rfl, shape, others⟩ := List.map_eq_cons_iff.1 same.symm
    have kind : token.kind = _ := congrArg Prod.fst shape
    exact .plain (by rwa [Token.IsPlain, kind]) (ih others.symm)
  | @nested opener closer inner rest opens closes _ _ within behind =>
    obtain ⟨front, others, rfl, shape, split⟩ := List.map_eq_cons_iff.1 same.symm
    obtain ⟨middle, ending, rfl, inside, split⟩ :=
      List.map_eq_append_iff.1 (split.trans List.map_append)
    obtain ⟨final, outside, rfl, last, split⟩ := List.map_eq_cons_iff.1 split
    obtain ⟨front_kind, front_text⟩ := Prod.mk.inj shape
    obtain ⟨final_kind, final_text⟩ := Prod.mk.inj last
    refine .nested (front_kind.trans opens) ⟨final_kind.trans closes.1, ?_⟩ (within inside.symm)
      (behind split.symm)
    rw [final_text, front_text, closes.2]

end Shapes

end RecordProjection.Directive
