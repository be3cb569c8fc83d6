import RecordProjection.Proofs.Directive.Excerpt
import RecordProjection.Proofs.Directive.Items
import RecordProjection.Proofs.Directive.Lexeme
import RecordProjection.Proofs.Reading
import RecordProjection.Selector.Parser

/-! The grammar of selectors. A selector is a name, or an operator before a list of selectors in
parentheses. Reading accepts the lists of tokens that the grammar gives a meaning to, and no others,
and finds the one selector that they denote. -/

namespace RecordProjection.Selector
open Directive Text

def Operator.word : Operator → String
  | .not => "not"
  | .any => "any"
  | .all => "all"

/-- What an operator makes of its operands. A negation needs one, and of several it negates the
disjunction. -/
inductive Operator.Makes : Operator → List Selector → Selector → Prop
  | any (operands : List Selector) : Makes .any operands (.any operands)
  | all (operands : List Selector) : Makes .all operands (.all operands)
  | not (operand : Selector) : Makes .not [operand] (.not operand)
  | neither (first second : Selector) (others : List Selector) :
      Makes .not (first :: second :: others) (.not (.any (first :: second :: others)))

/-- The selector that a list of tokens denotes. -/
inductive Denotes : List Token → Selector → Prop
  | name {token : Token} (ident : token.kind = .ident)
      (identifier : isIdentifier token.text.toList = true) : Denotes [token] (.name token.text)
  | operation {operator : Operator} {head opener closer : Token} {tokens : List Token}
      {operands : List (List Token × Selector)} {selector : Selector}
      (ident : head.kind = .ident) (word : head.text = operator.word)
      (opens : opener.kind = .opening ∧ opener.text = "(") (closes : closer.IsCloser ")")
      (listed : Listed Token.IsComma (operands.map Prod.fst) tokens)
      (denoted : ∀ operand ∈ operands, Denotes operand.1 operand.2)
      (makes : operator.Makes (operands.map Prod.snd) selector) :
      Denotes (head :: opener :: (tokens ++ [closer])) selector

theorem Operator.ofText?_eq_some_iff {text : String} {operator : Operator} :
    ofText? text = some operator ↔ text = operator.word := by
  unfold ofText?
  constructor
  · intro found
    split at found
    · cases found
      assumption
    · split at found
      · cases found
        assumption
      · split at found
        · cases found
          assumption
        · cases found
  · rintro rfl
    cases operator <;> rfl

theorem Operator.apply_eq_ok_iff {operator : Operator} {operands : List Selector}
    {selector : Selector} :
    operator.apply operands = .ok selector ↔ operator.Makes operands selector := by
  constructor
  · intro made
    unfold apply at made
    split at made
    · cases made
      exact .any _
    · cases made
      exact .all _
    · cases made
    · cases made
      exact .not _
    · rename_i several single
      cases made
      cases operands with
      | nil => exact absurd rfl several
      | cons first others =>
        cases others with
        | nil => exact absurd rfl (single first)
        | cons second others => exact .neither first second others
  · intro makes
    cases makes <;> rfl

theorem parse_operation (head second : Token) (others : List Token) :
    parse (head :: second :: others) =
      operation (head :: second :: others) >>= fun read =>
        (splitTopLevel read.2).mapM parse >>= read.1.apply := by
  rw [parse]
  split
  · rename_i read
    rw [read]
    rfl
  · rename_i operator operands read
    rw [read]
    simp only [List.mapM_subtype, List.unattach_attach]
    rfl

theorem parse_of_operation {tokens inner : List Token} {operator : Operator}
    {segments : List (List Token)} (read : operation tokens = .ok (operator, inner))
    (split : splitTopLevel inner = segments) :
    parse tokens = segments.mapM parse >>= operator.apply := by
  match tokens with
  | [] => cases read
  | [_] => cases read
  | head :: second :: others =>
    rw [parse_operation, read, ← split]
    rfl

theorem parse_of_operand {tokens inner segment : List Token} {operator : Operator}
    {operand : Selector} (read : operation tokens = .ok (operator, inner))
    (split : splitTopLevel inner = [segment]) (single : parse segment = .ok operand) :
    parse tokens = operator.apply [operand] := by
  rw [parse_of_operation read split, List.mapM_cons, single, List.mapM_nil]
  rfl

section Operation
variable {head opener closer : Token} {inner tokens : List Token} {operator : Operator}

theorem closerOf_parenthesis : closerOf "(" = ")" := rfl

theorem operation_enclosed (ident : head.kind = .ident) (word : head.text = operator.word)
    (opens : opener.kind = .opening ∧ opener.text = "(") (closes : closer.IsCloser ")")
    (within : Balanced inner) :
    operation (head :: opener :: (inner ++ [closer])) = .ok (operator, inner) := by
  obtain ⟨first, rest, whole⟩ : ∃ first rest, inner ++ [closer] = first :: rest :=
    List.exists_cons_of_ne_nil (by simp)
  have closing : closer.IsCloser (closerOf opener.text) := by
    rwa [opens.2, closerOf_parenthesis]
  have found : matchingClose (head :: opener :: first :: rest) 1 =
      some ((head :: opener :: first :: rest).length - 1) := by
    rw [matchingClose, List.drop_one, List.tail_cons, ← whole,
      closeFrom_enclosed opens.1 closing within]
    simp only [List.length_cons, List.length_append, List.length_nil]
    congr 1
    omega
  rw [whole, operation, if_neg (by simp [ident, opens.2]), Operator.ofText?_eq_some_iff.2 word]
  dsimp only
  rw [if_pos found, ← whole, List.dropLast_concat]

theorem enclosed_of_operation
    (lexical : ∀ token ∈ tokens, token.text = "(" → token.kind = .opening)
    (read : operation tokens = .ok (operator, inner)) :
    ∃ head opener closer, tokens = head :: opener :: (inner ++ [closer]) ∧ head.kind = .ident ∧
      head.text = operator.word ∧ (opener.kind = .opening ∧ opener.text = "(") ∧
      closer.IsCloser ")" ∧ Balanced inner := by
  unfold operation at read
  split at read
  · rename_i head opener first rest
    split at read
    · cases read
    · rename_i start
      simp only [ne_eq, decide_not, Bool.or_eq_true, Bool.not_eq_true',
        decide_eq_false_iff_not, not_or, Decidable.not_not] at start
      obtain ⟨ident, parenthesis⟩ := start
      split at read
      · cases read
      · rename_i found
        split at read
        · rename_i closed
          cases read
          have opens := lexical opener (by simp) parenthesis
          rw [matchingClose, List.drop_one, List.tail_cons] at closed
          obtain ⟨inner, closer, behind, split, within, closes, place⟩ :=
            enclosed_of_closeFrom opens closed
          have none : behind = [] := by
            have length := congrArg List.length split
            simp only [List.length_cons, List.length_append] at length place
            exact List.eq_nil_of_length_eq_zero (by omega)
          rw [none] at split
          rw [split, List.dropLast_concat]
          rw [parenthesis, closerOf_parenthesis] at closes
          exact ⟨head, opener, closer, rfl, ident, Operator.ofText?_eq_some_iff.1 found,
            ⟨opens, parenthesis⟩, closes, within⟩
        · cases read
  · cases read

end Operation

section Names
variable {text : String} {token : Token}

theorem isName_eq_isIdentifier (solid : EndsSolid text.toList) :
    isName text = isIdentifier text.toList := by
  have noLineFeed : text.toList.getLast? ≠ some '\n' := fun last => by
    cases solid '\n' last
  rw [isName, chompNewline, if_neg noLineFeed]

end Names

theorem Denotes.isItem {tokens : List Token} {selector : Selector}
    (denotes : Denotes tokens selector) : IsItem tokens := by
  have plain : ∀ token : Token, token.kind = .ident → token.IsPlain ∧ ¬ token.IsComma :=
    fun token ident => by simp [Token.IsPlain, Token.IsComma, ident]
  induction denotes with
  | name ident identifier => exact .single (plain _ ident).1 (plain _ ident).2
  | @operation operator head opener closer tokens operands selector ident word opens closes listed
      denoted makes parts =>
    have within : Balanced tokens := by
      refine listed.balanced fun item member => ?_
      obtain ⟨operand, stands, rfl⟩ := List.mem_map.1 member
      exact parts operand stands
    rw [← closerOf_parenthesis, ← opens.2] at closes
    exact .cons (plain _ ident).1 (plain _ ident).2 ⟨List.cons_ne_nil _ _,
      .enclosed opens.1 closes within, within.undivided_enclosed opens.1 closes⟩

theorem Denotes.kind_ne_punct {tokens : List Token} {selector : Selector}
    (denotes : Denotes tokens selector) : ∀ token ∈ tokens, token.kind ≠ .punct := by
  induction denotes with
  | name ident identifier => exact List.forall_mem_singleton.2 (by simp [ident])
  | @operation operator head opener closer tokens operands selector ident word opens closes listed
      denoted makes parts =>
    refine List.forall_mem_cons.2 ⟨by simp [ident], List.forall_mem_cons.2 ⟨by simp [opens.1],
      List.forall_mem_append.2 ⟨?_, List.forall_mem_singleton.2 (by simp [closes.1])⟩⟩⟩
    intro token member
    rcases listed.separates_or_mem member with comma | ⟨item, among, inside⟩
    · simp [show token.kind = .comma from comma]
    · obtain ⟨operand, stands, rfl⟩ := List.mem_map.1 among
      exact parts operand stands token inside

/-- What tokens denote does not depend on where they stand. -/
theorem Denotes.moved {tokens : List Token} {selector : Selector}
    (denotes : Denotes tokens selector) (count : Nat) :
    Denotes (tokens.map (Token.moved count)) selector := by
  induction denotes with
  | name ident identifier => exact .name ident identifier
  | @operation operator head opener closer tokens operands selector ident word opens closes listed
      denoted makes parts =>
    let place : List Token × Selector → List Token × Selector :=
      Prod.map (List.map (Token.moved count)) id
    have items : Listed Token.IsComma ((operands.map place).map Prod.fst)
        (tokens.map (Token.moved count)) := by
      have parts : Listed Token.IsComma _ _ :=
        listed.map (Token.moved count) fun _ comma => comma
      rwa [List.map_map] at parts ⊢
    have same : (operands.map place).map Prod.snd = operands.map Prod.snd := List.map_map
    rw [List.map_cons, List.map_cons, List.map_append, List.map_singleton]
    exact .operation ident word opens closes items (List.forall_mem_map.2 parts) (same ▸ makes)

theorem Denotes.parse {tokens : List Token} {selector : Selector}
    (denotes : Denotes tokens selector) : parse tokens = .ok selector := by
  induction denotes with
  | @name token ident identifier =>
    have named : isName token.text = true := by
      rw [isName_eq_isIdentifier (isLexeme_of_isIdentifier identifier).endsSolid, identifier]
    rw [Selector.parse, if_pos (by simp [isNameToken, ident, named])]
  | @operation operator head opener closer tokens operands selector ident word opens closes listed
      denoted makes reads =>
    have items : ∀ item ∈ operands.map Prod.fst, IsItem item := by
      intro item member
      obtain ⟨operand, stands, rfl⟩ := List.mem_map.1 member
      exact (denoted operand stands).isItem
    rw [parse_operation, operation_enclosed ident word opens closes (listed.balanced items)]
    change (splitTopLevel tokens).mapM Selector.parse >>= operator.apply = .ok selector
    rw [splitTopLevel_listed listed items, mapM_map_of_ok Prod.fst Prod.snd reads]
    exact Operator.apply_eq_ok_iff.2 makes

theorem denotes_of_parse {tokens : List Token} {selector : Selector}
    (lexical : ∀ token ∈ tokens, token.IsLexical) (read : parse tokens = .ok selector) :
    Denotes tokens selector := by
  induction tokens using Selector.parse.induct generalizing selector with
  | case1 =>
    rw [Selector.parse] at read
    cases read
  | case2 token named =>
    rw [Selector.parse, if_pos named] at read
    cases read
    rw [isNameToken, Bool.and_eq_true, decide_eq_true_eq,
      isName_eq_isIdentifier (lexical token List.mem_cons_self).lexeme.endsSolid] at named
    exact .name named.1 named.2
  | case3 token unnamed =>
    rw [Selector.parse, if_neg unnamed] at read
    cases read
  | case4 head second others fault failed =>
    rw [parse_operation, failed] at read
    cases read
  | case5 head second others operator inner found ih =>
    rw [parse_operation, found] at read
    change (splitTopLevel inner).mapM Selector.parse >>= operator.apply = .ok selector at read
    obtain ⟨selectors, segments, made⟩ := bind_eq_ok read
    obtain ⟨operands, items, rfl, reads⟩ := pairs_of_mapM_ok segments
    obtain ⟨head, opener, closer, split, ident, word, opens, closes, -⟩ :=
      enclosed_of_operation (fun token member => (lexical token member).opening) found
    rw [split] at lexical ⊢
    refine .operation ident word opens closes (items ▸ listed_splitTopLevel inner) ?_
      (Operator.apply_eq_ok_iff.1 made)
    intro operand member
    have segment : operand.1 ∈ splitTopLevel inner := items ▸ List.mem_map_of_mem member
    refine ih operand.1 segment (fun token inside => lexical token ?_) (reads operand member)
    have among := (contiguous_of_mem_splitTopLevel segment).subset inside
    exact List.mem_cons_of_mem _ (List.mem_cons_of_mem _ (List.mem_append_left _ among))

/-- Reading finds the selector that tokens denote, and fails where they denote none. -/
theorem parse_eq_ok_iff_denotes (tokens : List Token)
    (lexical : ∀ token ∈ tokens, token.IsLexical) :
    (∀ selector, parse tokens = .ok selector ↔ Denotes tokens selector) ∧
      ((∃ cause, parse tokens = .error cause) ↔ ∀ selector, ¬ Denotes tokens selector) := by
  have accepts : ∀ selector, parse tokens = .ok selector ↔ Denotes tokens selector :=
    fun selector => ⟨denotes_of_parse lexical, Denotes.parse⟩
  refine ⟨accepts, ?_⟩
  simp only [← accepts]
  cases parse tokens with
  | error cause => simp
  | ok selector => simp

theorem parse_eq_ok_iff_denotes_nested :
    (∀ token ∈ tokenize "not(any, all(B,),)", token.IsLexical) ∧
      Denotes (tokenize "not(any, all(B,),)") (.not (.any [.name "any", .all [.name "B"]])) ∧
      ∀ selector, ¬ Denotes (tokenize "any(A,,B)") selector := by
  have lexical : ∀ text, ∀ token ∈ tokenize text, token.IsLexical :=
    fun text token member => isLexical_of_mem_tokenize member
  refine ⟨lexical _, ((parse_eq_ok_iff_denotes _ (lexical _)).1 _).1 ?_,
    (parse_eq_ok_iff_denotes _ (lexical _)).2.1 ⟨.emptyName, ?_⟩⟩
  · let operand : List Token := [⟨.ident, "all", 9, 12⟩, ⟨.opening, "(", 12, 13⟩,
      ⟨.ident, "B", 13, 14⟩, ⟨.comma, ",", 14, 15⟩, ⟨.closing, ")", 15, 16⟩]
    let operands := ⟨.ident, "any", 4, 7⟩ :: ⟨.comma, ",", 7, 8⟩ :: operand ++
      [⟨.comma, ",", 16, 17⟩]
    have first : parse [⟨.ident, "any", 4, 7⟩] = .ok (.name "any") :=
      (Denotes.name rfl (by decide)).parse
    have second : parse operand = .ok (.all [.name "B"]) := by
      have read : operation operand =
          .ok (.all, [⟨.ident, "B", 13, 14⟩, ⟨.comma, ",", 14, 15⟩]) := rfl
      have split : splitTopLevel [⟨.ident, "B", 13, 14⟩, ⟨.comma, ",", 14, 15⟩] =
          [[⟨.ident, "B", 13, 14⟩]] := rfl
      exact parse_of_operand read split (Denotes.name rfl (by decide)).parse
    have read : operation (tokenize "not(any, all(B,),)") = .ok (.not, operands) := by
      decide +kernel
    have split : splitTopLevel operands = [[⟨.ident, "any", 4, 7⟩], operand] := rfl
    rw [parse_of_operation read split, List.mapM_cons, first, List.mapM_cons, second,
      List.mapM_nil]
    rfl
  · let operands : List Token := [⟨.ident, "A", 4, 5⟩, ⟨.comma, ",", 5, 6⟩, ⟨.comma, ",", 6, 7⟩,
      ⟨.ident, "B", 7, 8⟩]
    have first : parse [⟨.ident, "A", 4, 5⟩] = .ok (.name "A") :=
      (Denotes.name rfl (by decide)).parse
    have second : parse [] = .error .emptyName := by rw [parse]
    have read : operation (tokenize "any(A,,B)") = .ok (.any, operands) := by decide +kernel
    have split : splitTopLevel operands =
        [[⟨.ident, "A", 4, 5⟩], [], [⟨.ident, "B", 7, 8⟩]] := rfl
    rw [parse_of_operation read split, List.mapM_cons, first, List.mapM_cons, second]
    rfl

end RecordProjection.Selector
