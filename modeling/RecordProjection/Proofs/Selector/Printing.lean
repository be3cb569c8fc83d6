import RecordProjection.Proofs.Directive.Written
import RecordProjection.Proofs.Selector.Grammar

/-! Selectors in writing. A selector has one written form, a list of words; tokens that have these
words for their texts denote the selector that was written. -/

namespace RecordProjection.Selector
open Directive Text

mutual

def words : Selector → List String
  | .name text => [text]
  | .not operand => "not" :: "(" :: (operand.words ++ [")"])
  | .any operands => "any" :: "(" :: ([","].intercalate (wordsOfAll operands) ++ [")"])
  | .all operands => "all" :: "(" :: ([","].intercalate (wordsOfAll operands) ++ [")"])

def wordsOfAll : List Selector → List (List String)
  | [] => []
  | operand :: rest => operand.words :: wordsOfAll rest

end

theorem wordsOfAll_eq (operands : List Selector) : wordsOfAll operands = operands.map words := by
  induction operands with
  | nil => rfl
  | cons operand rest ih => rw [wordsOfAll, ih, List.map_cons]

def Named (selector : Selector) : Prop :=
  ∀ name ∈ selector.names, isIdentifier name.toList = true

theorem named_of_mem {operands : List Selector}
    (named : ∀ name ∈ namesOfAll operands, isIdentifier name.toList = true) :
    ∀ operand ∈ operands, operand.Named := by
  rw [namesOfAll_eq] at named
  exact fun operand member name inside => named name (List.mem_flatMap.2 ⟨operand, member, inside⟩)

theorem isIdentifier_word (operator : Operator) : isIdentifier operator.word.toList = true := by
  cases operator <;> decide

theorem legible_words (selector : Selector) (named : selector.Named) : Legible selector.words := by
  have several : ∀ (operator : Operator) (operands : List Selector),
      (∀ operand ∈ operands, Legible operand.words) → Legible
        (operator.word :: "(" :: ([","].intercalate (wordsOfAll operands) ++ [")"])) := by
    intro operator operands each
    refine .call (isIdentifier_word operator) (.listed (listed_intercalate "," _) ?_)
    rw [wordsOfAll_eq]
    exact List.forall_mem_map.2 each
  induction selector using member_induction with
  | name text => exact .ident (named text List.mem_cons_self)
  | not operand ih => exact .call (isIdentifier_word .not) (ih named)
  | any operands ih =>
    exact several .any operands fun operand member =>
      ih operand member (named_of_mem named operand member)
  | all operands ih =>
    exact several .all operands fun operand member =>
      ih operand member (named_of_mem named operand member)

section Reading
variable {tokens : List Token} {inner : List String}

theorem denotes_operation (operator : Operator) {operands : List Selector} {selector : Selector}
    (written : IsWritten (operator.word :: "(" :: (inner ++ [")"])) tokens)
    (listed : Listed (· = ",") (operands.map words) inner)
    (makes : operator.Makes operands selector)
    (each : ∀ operand ∈ operands, ∀ part, IsWritten operand.words part → Denotes part operand) :
    Denotes tokens selector := by
  obtain ⟨head, rest, rfl, lexical, word, behind⟩ := written.cons
  obtain ⟨opener, middle, closer, rfl, opens, within, closes⟩ := behind.enclosed
  obtain ⟨pairs, rfl, commas, alike⟩ := within.listed listed
  have start := lexical.ident (word ▸ isIdentifier_word operator)
  refine .operation start word opens closes commas (fun pair member => ?_) makes
  exact each pair.2 (List.mem_map_of_mem member) pair.1 (alike pair member)

theorem denotes_of_words {selector : Selector} (named : selector.Named)
    (written : IsWritten selector.words tokens) : Denotes tokens selector := by
  induction selector using member_induction generalizing tokens with
  | name text =>
    obtain ⟨token, rfl, lexical, rfl⟩ := written.single
    have identifier := named token.text List.mem_cons_self
    exact .name (lexical.ident identifier) identifier
  | not operand ih =>
    refine denotes_operation .not written (.joined (.last operand.words)) (.not operand) ?_
    exact List.forall_mem_singleton.2 fun part => ih named
  | any operands ih =>
    refine denotes_operation .any written (wordsOfAll_eq operands ▸ listed_intercalate "," _)
      (.any operands) ?_
    exact fun operand member part => ih operand member (named_of_mem named operand member)
  | all operands ih =>
    refine denotes_operation .all written (wordsOfAll_eq operands ▸ listed_intercalate "," _)
      (.all operands) ?_
    exact fun operand member part => ih operand member (named_of_mem named operand member)

end Reading

end RecordProjection.Selector
