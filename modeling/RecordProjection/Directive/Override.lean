import RecordProjection.Selector.Parser
import RecordProjection.Directive.Body

/-!
Override directives: selectors and, as the last item, an annotation to add where they match. The
annotation is kept as written and may not be a directive itself.
-/

namespace RecordProjection

open Directive

structure Override where
  selector : Selector
  added : String
deriving Repr

namespace Directive

def segmentText (text : String) (first : Token) (rest : List Token) : String :=
  slice text first.start (rest.getLastD first).stop

def overrideParts : List (List Token) → Option (List (List Token) × List Token)
  | [] => none
  | [_] => none
  | first :: second :: others =>
    some ((first :: second :: others).dropLast, others.getLastD second)

def override (note : String) : Except Malformation Override := do
  let text ← body DirectiveKind.override.path note
  match overrideParts (splitTopLevel (tokenize text)) with
  | some (selectors, first :: rest) =>
    let injected := segmentText text first rest
    if isDirective injected then .error (.injectedDirective injected)
    else return ⟨← Selector.parseUnion selectors, injected⟩
  | _ => .error .incompleteOverride

end Directive

end RecordProjection
