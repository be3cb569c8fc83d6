import RecordProjection.Selector
import RecordProjection.Directive.Bracket
import RecordProjection.Directive.Malformation

/-!
Reading selectors from tokens. A selector is a name, or one of the operators `not`, `any` and `all`
before a list of selectors in parentheses; one comma may close the list. A negation of several
selectors negates their disjunction.
-/

namespace RecordProjection.Selector

open Directive Text

inductive Operator
  | not
  | any
  | all
deriving DecidableEq, Repr

def Operator.ofText? (text : String) : Option Operator :=
  if text = "not" then some .not
  else if text = "any" then some .any
  else if text = "all" then some .all
  else none

def Operator.apply : Operator → List Selector → Except Malformation Selector
  | .any, operands => .ok (.any operands)
  | .all, operands => .ok (.all operands)
  | .not, [] => .error .emptyNegation
  | .not, [operand] => .ok (.not operand)
  | .not, operands => .ok (.not (.any operands))

/-- An operator and the tokens between its parentheses, from a list that is not a single name. -/
def operation (tokens : List Token) : Except Malformation (Operator × List Token) :=
  match tokens with
  | head :: opener :: first :: rest =>
    if head.kind ≠ .ident || opener.text ≠ "(" then .error (.badExpression (spell tokens))
    else
      match Operator.ofText? head.text with
      | none => .error (.unknownOperator head.text)
      | some operator =>
        if matchingClose tokens 1 = some (tokens.length - 1) then
          .ok (operator, (first :: rest).dropLast)
        else .error (.badOperands head.text (spell tokens))
  | _ => .error (.badExpression (spell tokens))

theorem operation_shorter {tokens operands : List Token} {operator : Operator}
    (read : operation tokens = .ok (operator, operands)) : operands.length < tokens.length := by
  unfold operation at read
  split at read
  · split at read
    · cases read
    · split at read
      · cases read
      · split at read
        · simp only [Except.ok.injEq, Prod.mk.injEq] at read
          rw [← read.2]
          simp only [List.length_dropLast, List.length_cons]
          omega
        · cases read
  · cases read

/-- Whether a token is a name; lifetimes are identifiers but no names. -/
def isNameToken (token : Token) : Bool := token.kind = .ident && isName token.text

def parse (tokens : List Token) : Except Malformation Selector :=
  match tokens with
  | [] => .error .emptyName
  | [token] =>
    if isNameToken token then .ok (.name token.text) else .error (.badExpression token.text)
  | head :: second :: others =>
    match _read : operation (head :: second :: others) with
    | .error fault => .error fault
    | .ok (operator, operands) => do
      let selectors ← (splitTopLevel operands).attach.mapM fun ⟨segment, _⟩ => parse segment
      operator.apply selectors
termination_by tokens.length
decreasing_by
  have within := length_of_mem_splitTopLevel ‹_›
  have shorter := operation_shorter _read
  omega

def parseUnion (segments : List (List Token)) : Except Malformation Selector := do
  let selectors ← segments.mapM parse
  return union selectors

end RecordProjection.Selector
