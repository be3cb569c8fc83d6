/-!
Selectors: predicates on record names, built from names by negation, disjunction and conjunction. An
empty disjunction matches nothing and an empty conjunction everything.
-/

namespace RecordProjection

inductive Selector
  | name (text : String)
  | not (operand : Selector)
  | any (operands : List Selector)
  | all (operands : List Selector)
deriving Repr

namespace Selector

mutual

def matches? (target : String) : Selector → Bool
  | .name text => target == text
  | .not operand => !operand.matches? target
  | .any operands => anyMatches target operands
  | .all operands => allMatch target operands

def anyMatches (target : String) : List Selector → Bool
  | [] => false
  | operand :: rest => operand.matches? target || anyMatches target rest

def allMatch (target : String) : List Selector → Bool
  | [] => true
  | operand :: rest => operand.matches? target && allMatch target rest

end

mutual

def names : Selector → List String
  | .name text => [text]
  | .not operand => operand.names
  | .any operands => namesOfAll operands
  | .all operands => namesOfAll operands

def namesOfAll : List Selector → List String
  | [] => []
  | operand :: rest => operand.names ++ namesOfAll rest

end

theorem anyMatches_eq (target : String) (operands : List Selector) :
    anyMatches target operands = operands.any (matches? target) := by
  induction operands with
  | nil => rfl
  | cons operand rest ih => simp [anyMatches, ih]

theorem allMatch_eq (target : String) (operands : List Selector) :
    allMatch target operands = operands.all (matches? target) := by
  induction operands with
  | nil => rfl
  | cons operand rest ih => simp [allMatch, ih]

theorem namesOfAll_eq (operands : List Selector) :
    namesOfAll operands = operands.flatMap names := by
  induction operands with
  | nil => rfl
  | cons operand rest ih => simp [namesOfAll, ih]

@[elab_as_elim]
theorem member_induction {motive : Selector → Prop} (name : ∀ text, motive (.name text))
    (not : ∀ operand, motive operand → motive (.not operand))
    (any : ∀ operands, (∀ operand ∈ operands, motive operand) → motive (.any operands))
    (all : ∀ operands, (∀ operand ∈ operands, motive operand) → motive (.all operands)) :
    ∀ selector, motive selector
  | .name text => name text
  | .not operand => not operand (member_induction name not any all operand)
  | .any operands => any operands fun operand _ => member_induction name not any all operand
  | .all operands => all operands fun operand _ => member_induction name not any all operand

/-- Several selectors stand for their disjunction, a single one for itself. -/
def union : List Selector → Selector
  | [selector] => selector
  | selectors => .any selectors

end Selector

end RecordProjection
