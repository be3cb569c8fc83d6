import RecordProjection.Markup.Prolog
import RecordProjection.Proofs.Markup.Legality

/-! Declarations made of legal characters. The texts of entities and the defaults of attributes come
from literals of the document type, whose characters are checked where they are scanned; every step
through the document type keeps the declarations legal. -/

namespace RecordProjection.Markup
open Text

theorem subset_squeezeBlanks (afterBlank : Bool) (text : List Char) :
    squeezeBlanks afterBlank text ⊆ text := by
  induction text generalizing afterBlank with
  | nil => exact List.Subset.refl _
  | cons c rest ih =>
    unfold squeezeBlanks
    split
    · split
      · exact List.Subset.trans (ih true) (List.subset_cons_self c rest)
      · exact List.cons_subset_cons c (ih true)
    · exact List.cons_subset_cons c (ih false)

theorem legal_attributeValue {declarations : Declarations} {usable : List Entity} {tokenized : Bool}
    {text value : List Char} (entities : LegalEntities usable) (legal : Legal text)
    (read : attributeValue declarations usable tokenized text = .ok value) : Legal value := by
  unfold attributeValue at read
  split at read
  · cases read
  · rename_i expanded
    have whole := legal_expandValue declarations entities legal expanded
    cases read
    split
    · exact legal_subset whole (subset_squeezeBlanks true _)
    · exact whole

structure Declarations.Legal (declarations : Declarations) : Prop where
  entities : LegalEntities declarations.entities
  attributes : ∀ declared ∈ declarations.attributes, ∀ value, declared.implied = some value →
    Markup.Legal value

theorem legal_addEntity {declarations : Declarations} (legal : declarations.Legal) (entity : Entity)
    (content : ∀ inner, entity.content = .text inner → Legal inner) :
    (declarations.addEntity entity).Legal := by
  unfold Declarations.addEntity
  split
  · exact legal
  · refine ⟨fun other member => ?_, legal.attributes⟩
    rcases List.mem_append.1 member with old | new
    · exact legal.entities other old
    · rw [List.mem_singleton.1 new]
      exact content

theorem legal_keepEntity {declarations : Declarations} (legal : declarations.Legal)
    (name : Option (List Char)) (content : EntityContent)
    (text : ∀ inner, content = .text inner → Legal inner) :
    (declarations.keepEntity name content).Legal := by
  unfold Declarations.keepEntity
  split
  · exact legal
  · exact legal_addEntity legal _ text

theorem legal_addAttribute {declarations : Declarations} (legal : declarations.Legal)
    (added : AttributeDeclaration) (implied : ∀ value, added.implied = some value → Legal value) :
    (declarations.addAttribute added).Legal := by
  unfold Declarations.addAttribute
  split
  · exact legal
  · refine ⟨legal.entities, fun other member => ?_⟩
    rcases List.mem_append.1 member with old | new
    · exact legal.attributes other old
    · rw [List.mem_singleton.1 new]
      exact implied

def PrologToken.Legal : PrologToken → Prop
  | .literal text => Markup.Legal text
  | _ => True

theorem legal_scanQuotedText {mark : Char} {text value rest : List Char}
    (read : scanQuotedText mark text = .ok (value, rest)) : Legal value := by
  induction text generalizing value with
  | nil => cases read
  | cons c tail ih =>
    unfold scanQuotedText at read
    split at read
    · cases read
      exact legal_nil
    · split at read
      · rename_i legal
        exact legal_prepend legal (fun _ => ih) read
      · cases read

theorem legal_scanPrologLiteral {mark : Char} {text rest : List Char} {token : PrologToken}
    (read : scanPrologLiteral mark text = .ok (token, rest)) : token.Legal := by
  unfold scanPrologLiteral at read
  split at read
  · cases read
  · rename_i found
    split at read
    · cases read
      exact legal_scanQuotedText found
    · split at read
      · cases read
        exact legal_scanQuotedText found
      · cases read

theorem legal_scanWordRest {kind : WordKind} {before text rest : List Char} {token : PrologToken}
    (read : scanWordRest kind before text = .ok (token, rest)) : token.Legal := by
  induction text generalizing kind before with
  | nil =>
    cases read
    trivial
  | cons c tail ih =>
    unfold scanWordRest at read
    split at read
    · exact ih read
    · split at read
      · split at read
        · cases read
        · exact ih read
        · exact ih read
      · split at read
        · cases read
          trivial
        · split at read
          · cases read
            trivial
          · cases read

theorem legal_scanDeclaration {text rest : List Char} {token : PrologToken}
    (read : scanDeclaration text = .ok (token, rest)) : token.Legal := by
  unfold scanDeclaration at read
  dsimp only at read
  repeat' split at read
  all_goals cases read <;> trivial

theorem legal_scanAngle {text rest : List Char} {token : PrologToken}
    (read : scanAngle text = .ok (token, rest)) : token.Legal := by
  unfold scanAngle at read
  split at read
  · cases read
  · exact legal_scanDeclaration read
  · split at read
    · cases read
    · cases read
      split <;> trivial
  · split at read <;> cases read
    trivial

theorem legal_scanPercent {text rest : List Char} {token : PrologToken}
    (read : scanPercent text = .ok (token, rest)) : token.Legal := by
  unfold scanPercent at read
  repeat' split at read
  all_goals cases read <;> trivial

theorem legal_scanHashName {text rest : List Char} {token : PrologToken}
    (read : scanHashName text = .ok (token, rest)) : token.Legal := by
  unfold scanHashName at read
  repeat' split at read
  all_goals cases read <;> trivial

theorem legal_scanParenClose {text rest : List Char} {token : PrologToken}
    (read : scanParenClose text = .ok (token, rest)) : token.Legal := by
  unfold scanParenClose at read
  repeat' split at read
  all_goals cases read <;> trivial

theorem legal_scanBracketClose {text rest : List Char} {token : PrologToken}
    (read : scanBracketClose text = .ok (token, rest)) : token.Legal := by
  unfold scanBracketClose at read
  repeat' split at read
  all_goals cases read <;> trivial

theorem legal_markToken? {c : Char} {token : PrologToken} (known : markToken? c = some token) :
    token.Legal := by
  obtain ⟨before, after, same, -⟩ := List.lookup_eq_some_iff.1 known
  have listed : (c, token) ∈ before ++ (c, token) :: after :=
    List.mem_append_right _ List.mem_cons_self
  rw [← same] at listed
  simp only [List.mem_cons, Prod.mk.injEq, List.not_mem_nil, or_false] at listed
  rcases listed with ⟨-, rfl⟩ | ⟨-, rfl⟩ | ⟨-, rfl⟩ | ⟨-, rfl⟩ | ⟨-, rfl⟩ <;> trivial

theorem legal_scanPrologToken {c : Char} {text rest : List Char} {token : PrologToken}
    (read : scanPrologToken c text = .ok (token, rest)) : token.Legal := by
  unfold scanPrologToken at read
  split at read
  · rename_i known
    cases read
    exact legal_markToken? known
  · split at read
    · exact legal_scanPrologLiteral read
    · exact legal_scanPrologLiteral read
    · exact legal_scanAngle read
    · exact legal_scanPercent read
    · exact legal_scanBracketClose read
    · exact legal_scanParenClose read
    · exact legal_scanHashName read
    · unfold scanWordFrom at read
      split at read
      · exact legal_scanWordRest read
      · split at read
        · exact legal_scanWordRest read
        · cases read

theorem legal_prologTokens (ending : Ending) (text : List Char) :
    ∀ placed ∈ prologTokens ending text, placed.token.Legal := by
  fun_induction prologTokens ending text with
  | case2 _ _ _ ih => exact ih
  | case5 =>
    rename_i found ih
    exact List.forall_mem_cons.2 ⟨legal_scanPrologToken found, ih⟩
  | _ => exact List.forall_mem_cons.2 ⟨trivial, fun _ member => nomatch member⟩

theorem scanReference_entity_eq {text name rest : List Char}
    (read : scanReference text = .ok (.entity name, rest)) : text = name ++ ';' :: rest := by
  have numeral : ∀ {base isDigit text},
      scanNumber base isDigit text ≠ .ok (.entity name, rest) := by
    intro base isDigit text found
    unfold scanNumber at found
    split at found
    · cases found
    · split at found <;> cases found
  unfold scanReference at read
  split at read
  · exact absurd read numeral
  · exact absurd read numeral
  · split at read
    · cases read
    · rename_i found
      cases read
      exact scanName_eq found
    · cases read

theorem legal_entityText {text inner : List Char} (legal : Legal text)
    (read : entityText text = .ok inner) : Legal inner := by
  fun_induction entityText text generalizing inner with
  | case1 =>
    cases read
    exact legal_nil
  | case4 _ _ _ found ih =>
    exact legal_joinTexts (legal_singleton (legal_scanReference found))
      (fun _ => ih (legal_after legal found)) read
  | case5 rest name after found ih =>
    obtain ⟨mark, whole⟩ := legal_cons.1 legal
    rw [scanReference_entity_eq found, legal_append] at whole
    refine legal_joinTexts ?_ (fun _ => ih (legal_cons.1 whole.2).2) read
    exact legal_cons.2 ⟨mark, legal_append.2 ⟨whole.1, legal_singleton (by decide)⟩⟩
  | case9 rest ih =>
    exact legal_joinTexts (legal_singleton (by decide))
      (fun _ => ih (legal_cons.1 (legal_cons.1 legal).2).2) read
  | case10 c rest _ _ _ ih =>
    obtain ⟨first, others⟩ := legal_cons.1 legal
    refine legal_joinTexts (legal_singleton ?_) (fun _ => ih others) read
    split
    · decide
    · exact first
  | _ => cases read

theorem legal_entityStep {declarations next : Declarations} {step : EntityStep}
    {placed : PlacedToken} {following : Option EntityStep} (legal : declarations.Legal)
    (token : placed.token.Legal) (read : step.next declarations placed = .ok (next, following)) :
    next.Legal := by
  unfold EntityStep.next at read
  split at read
  case h_4 found =>
    rw [found] at token
    split at read
    · cases read
      exact legal
    · split at read
      · cases read
      · rename_i expanded
        cases read
        refine legal_keepEntity legal _ _ fun inner same => ?_
        cases same
        exact legal_entityText token expanded
  case h_8 =>
    cases read
    exact legal_keepEntity legal _ _ fun _ same => by cases same
  case h_10 =>
    cases read
    exact legal_keepEntity legal _ _ fun _ same => by cases same
  all_goals
    repeat' split at read
    all_goals cases read <;> exact legal

theorem legal_addDefault {declarations next : Declarations} {placed : PlacedToken}
    {element name text : List Char} {tokenized : Bool} {following : Option AttributeStep}
    (legal : declarations.Legal) (literal : Legal text)
    (read : declarations.addDefault placed element name tokenized text = .ok (next, following)) :
    next.Legal := by
  unfold Declarations.addDefault at read
  split at read
  · cases read
    exact legal
  · split at read
    · cases read
    · rename_i value
      cases read
      refine legal_addAttribute legal _ fun implied same => ?_
      cases same
      exact legal_attributeValue legal.entities literal value

theorem legal_attributeStep {declarations next : Declarations} {step : AttributeStep}
    {placed : PlacedToken} {following : Option AttributeStep} (legal : declarations.Legal)
    (token : placed.token.Legal) (read : step.next declarations placed = .ok (next, following)) :
    next.Legal := by
  unfold AttributeStep.next at read
  split at read
  case h_10 =>
    split at read
    · cases read
      exact legal_addAttribute legal _ fun _ same => nomatch same
    · split at read <;> cases read
      exact legal
  case h_11 found | h_12 found =>
    rw [found] at token
    exact legal_addDefault legal token read
  all_goals
    repeat' split at read
    all_goals cases read <;> exact legal

theorem legal_prologStep {declarations next : Declarations} {step following : PrologStep}
    {placed : PlacedToken} (legal : declarations.Legal) (token : placed.token.Legal)
    (read : step.next declarations placed = .ok (next, following)) : next.Legal := by
  unfold PrologStep.next at read
  dsimp only at read
  split at read
  case h_15 =>
    split at read
    · cases read
    · rename_i found
      cases read
      exact legal_entityStep legal token found
  case h_16 =>
    split at read
    · cases read
    · rename_i found
      cases read
      exact legal_attributeStep legal token found
  all_goals
    repeat' split at read
    all_goals cases read <;> exact ⟨legal.entities, legal.attributes⟩

theorem legal_readProlog {declarations final : Declarations} {step : PrologStep}
    {tokens : List PlacedToken} {rest : List Char} (legal : declarations.Legal)
    (all : ∀ placed ∈ tokens, placed.token.Legal)
    (read : readProlog declarations step tokens = .ok (final, rest)) : final.Legal := by
  induction tokens generalizing declarations step with
  | nil => cases read
  | cons placed others ih =>
    unfold readProlog at read
    split at read
    · cases read
      exact legal
    · split at read
      · cases read
      · rename_i found
        have next := legal_prologStep legal (all placed List.mem_cons_self) found
        exact ih next (fun other member => all other (List.mem_cons_of_mem placed member)) read

end RecordProjection.Markup
