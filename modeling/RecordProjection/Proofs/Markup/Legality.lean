import RecordProjection.Markup.Allowance
import RecordProjection.Proofs.Markup.Escape

/-! Legal characters. Whatever is scanned is made of characters that a document may hold, and so are
the values that references in it expand to; a tree that grows from such pieces holds no others. -/

namespace RecordProjection.Markup
open Text

theorem legal_nil : Legal [] := fun _ member => nomatch member

theorem legal_cons {c : Char} {text : List Char} :
    Legal (c :: text) ↔ isLegal c = true ∧ Legal text := List.forall_mem_cons

theorem legal_append {first second : List Char} :
    Legal (first ++ second) ↔ Legal first ∧ Legal second := List.forall_mem_append

theorem legal_subset {text part : List Char} (legal : Legal text) (within : part ⊆ text) :
    Legal part := fun c member => legal c (within member)

theorem isLegal_of_predefined? {name : List Char} {c : Char} (known : predefined? name = some c) :
    isLegal c = true := by
  obtain ⟨before, after, same, -⟩ := List.lookup_eq_some_iff.1 known
  have listed : (String.ofList name, c) ∈ before ++ (String.ofList name, c) :: after :=
    List.mem_append_right _ List.mem_cons_self
  rw [← same] at listed
  simp only [List.mem_cons, Prod.mk.injEq, List.not_mem_nil, or_false] at listed
  rcases listed with ⟨-, rfl⟩ | ⟨-, rfl⟩ | ⟨-, rfl⟩ | ⟨-, rfl⟩ | ⟨-, rfl⟩ <;> decide

def Reference.Legal : Reference → Prop
  | .character (some c) => isLegal c = true
  | _ => True

theorem legal_scanNumber {base : Nat} {isDigit : Char → Bool} {text rest : List Char}
    {reference : Reference} (read : scanNumber base isDigit text = .ok (reference, rest)) :
    reference.Legal := by
  unfold scanNumber at read
  split at read
  · cases read
  · split at read
    · cases read
      unfold legalChar?
      split
      · rename_i allowed
        simp only [Bool.and_eq_true] at allowed
        exact allowed.2
      · trivial
    · cases read

theorem legal_scanReference {text rest : List Char} {reference : Reference}
    (read : scanReference text = .ok (reference, rest)) : reference.Legal := by
  unfold scanReference at read
  split at read
  · exact legal_scanNumber read
  · exact legal_scanNumber read
  · split at read
    · cases read
    · cases read
      trivial
    · cases read

theorem legal_prepend {c : Char} {scanned : Except Stop (List Char × List Char)}
    {text rest : List Char} (legal : isLegal c = true)
    (further : ∀ tail, scanned = .ok (tail, rest) → Legal tail)
    (read : prepend c scanned = .ok (text, rest)) : Legal text := by
  unfold prepend at read
  split at read
  · cases read
    exact legal_cons.2 ⟨legal, further _ rfl⟩
  · cases read

theorem legal_scanLiteral {text data rest : List Char}
    (read : scanLiteral text = .ok (data, rest)) : Legal data := by
  fun_induction scanLiteral text generalizing data with
  | case5 =>
    cases read
    exact legal_nil
  | case6 tail ih => exact legal_prepend (by decide) (fun _ => ih) read
  | case7 tail _ _ ih => exact legal_prepend (by decide) (fun _ => ih) read
  | case8 c tail =>
    rename_i legal ih
    exact legal_prepend legal (fun _ => ih) read
  | _ => cases read

theorem legal_scanValue {mark : Char} {text value rest : List Char}
    (read : scanValue mark text = .ok (value, rest)) : Legal value := by
  induction text generalizing value with
  | nil => cases read
  | cons c tail ih =>
    unfold scanValue at read
    split at read
    · cases read
      exact legal_nil
    · split at read
      · cases read
      · rename_i allowed
        have legal : isLegal c = true := by
          simp only [Bool.or_eq_true, not_or, Bool.not_eq_true', Bool.not_eq_false] at allowed
          exact allowed.2
        split at read
        · split at read
          · cases read
          · exact legal_prepend legal (fun _ => ih) read
        · exact legal_prepend legal (fun _ => ih) read

theorem legal_scanQuotedValue {text value rest : List Char}
    (read : scanQuotedValue text = .ok (value, rest)) : Legal value := by
  unfold scanQuotedValue at read
  split at read
  · cases read
  · split at read
    · exact legal_scanValue read
    · cases read

theorem legal_scanAttribute {text rest : List Char} {raw : RawAttribute}
    (read : scanAttribute text = .ok (raw, rest)) : Legal raw.value := by
  unfold scanAttribute at read
  split at read
  · cases read
  · split at read
    · dsimp only at read
      split at read
      · cases read
      · rename_i found
        cases read
        exact legal_scanQuotedValue found
    · cases read

theorem legal_scanAttributes {text rest : List Char} {raws : List RawAttribute} {closed : Bool}
    (read : scanAttributes text = .ok (raws, closed, rest)) : ∀ raw ∈ raws, Legal raw.value := by
  fun_induction scanAttributes text generalizing raws with
  | case5 =>
    rename_i found _ _ _ further ih
    cases read
    exact List.forall_mem_cons.2 ⟨legal_scanAttribute found, ih further⟩
  | case7 | case9 =>
    cases read
    exact fun _ member => nomatch member
  | _ => cases read

def Piece.Legal : Piece → Prop
  | .char c => isLegal c = true
  | .reference referred => referred.Legal
  | .literal data => Markup.Legal data
  | .startTag tag => ∀ raw ∈ tag.attributes, Markup.Legal raw.value
  | _ => True

theorem legal_scanMarkup {text rest : List Char} {piece : Piece}
    (read : scanMarkup text = .ok (piece, rest)) : piece.Legal := by
  unfold scanMarkup at read
  split at read
  · split at read
    · cases read
    · cases read
      trivial
  · cases read
  · split at read
    · cases read
    · split at read
      · cases read
      · split at read
        · cases read
        · rename_i found
          cases read
          exact legal_scanLiteral found
  · cases read
  · split at read
    · cases read
    · cases read
      split <;> trivial
  · split at read
    · cases read
    · cases read
      trivial
  · split at read
    · cases read
    · rename_i found
      cases read
      unfold scanStartTag at found
      split at found
      · cases found
      · split at found
        · cases found
        · rename_i further
          cases found
          exact legal_scanAttributes further

theorem legal_lastPiece (ending : Ending) (place : List Char) :
    (lastPiece ending place).piece.Legal := by
  unfold lastPiece
  split
  · trivial
  · split <;> trivial
  · trivial

theorem legal_pieces (ending : Ending) (text : List Char) :
    ∀ placed ∈ pieces ending text, placed.piece.Legal := by
  have lineFeed : (Piece.char '\n').Legal := show isLegal '\n' = true by decide
  fun_induction pieces ending text with
  | case1 => simpa using legal_lastPiece ending []
  | case2 _ _ _ found ih => exact List.forall_mem_cons.2 ⟨legal_scanMarkup found, ih⟩
  | case4 _ _ _ found ih => exact List.forall_mem_cons.2 ⟨legal_scanReference found, ih⟩
  | case6 => exact List.forall_mem_cons.2 ⟨lineFeed, by simpa using legal_lastPiece ending ['\r']⟩
  | case7 _ ih => exact List.forall_mem_cons.2 ⟨lineFeed, ih⟩
  | case8 _ _ _ ih => exact List.forall_mem_cons.2 ⟨lineFeed, ih⟩
  | case10 =>
    rename_i legal ih
    exact List.forall_mem_cons.2 ⟨legal, ih⟩
  | _ => exact List.forall_mem_cons.2 ⟨trivial, fun _ member => nomatch member⟩

theorem mem_takeEntity {name : List Char} {entities others : List Entity} {entity : Entity}
    (taken : takeEntity name entities = some (entity, others)) :
    entity ∈ entities ∧ others ⊆ entities := by
  induction entities generalizing others with
  | nil => cases taken
  | cons first rest ih =>
    unfold takeEntity at taken
    split at taken
    · cases taken
      exact ⟨List.mem_cons_self, List.subset_cons_self _ _⟩
    · obtain ⟨⟨found, remaining⟩, further, same⟩ := Option.map_eq_some_iff.1 taken
      cases same
      obtain ⟨listed, within⟩ := ih further
      exact ⟨List.mem_cons_of_mem _ listed, List.cons_subset_cons _ within⟩

def LegalEntities (usable : List Entity) : Prop :=
  ∀ entity ∈ usable, ∀ inner, entity.content = .text inner → Legal inner

theorem legal_takeEntity {name label inner : List Char} {usable others : List Entity}
    (legal : LegalEntities usable)
    (taken : takeEntity name usable = some (⟨label, .text inner⟩, others)) :
    Legal inner ∧ LegalEntities others := by
  obtain ⟨listed, within⟩ := mem_takeEntity taken
  exact ⟨legal _ listed inner rfl, fun entity member => legal entity (within member)⟩

theorem legal_joinTexts {first text : List Char} {second : Except ValueFault (List Char)}
    (legal : Legal first) (further : ∀ tail, second = .ok tail → Legal tail)
    (joined : joinTexts first second = .ok text) : Legal text := by
  unfold joinTexts at joined
  split at joined
  · cases joined
  · cases joined
    exact legal_append.2 ⟨legal, further _ rfl⟩

theorem legal_singleton {c : Char} (legal : isLegal c = true) : Legal [c] :=
  legal_cons.2 ⟨legal, legal_nil⟩

theorem scanName_eq {text name rest : List Char} (read : scanName text = .ok (name, rest)) :
    text = name ++ rest := by
  unfold scanName at read
  split at read
  · cases read
  · split at read
    · cases read
      rw [List.cons_append, List.takeWhile_append_dropWhile]
    · cases read

theorem suffix_scanNumber {base : Nat} {isDigit : Char → Bool} {text rest : List Char}
    {reference : Reference} (read : scanNumber base isDigit text = .ok (reference, rest)) :
    rest <:+ text := by
  unfold scanNumber at read
  split at read
  · cases read
  · split at read
    · rename_i after found
      cases read
      exact (List.suffix_cons ';' _).trans (found ▸ List.dropWhile_suffix isDigit)
    · cases read

theorem suffix_scanReference {text rest : List Char} {reference : Reference}
    (read : scanReference text = .ok (reference, rest)) : rest <:+ text := by
  unfold scanReference at read
  split at read
  · exact (suffix_scanNumber read).trans ((List.suffix_cons _ _).trans (List.suffix_cons _ _))
  · exact (suffix_scanNumber read).trans (List.suffix_cons _ _)
  · split at read
    · cases read
    · rename_i found
      cases read
      rw [scanName_eq found]
      exact (List.suffix_cons _ _).trans (List.suffix_append _ _)
    · cases read

theorem legal_after {text rest : List Char} {reference : Reference} (legal : Legal ('&' :: text))
    (read : scanReference text = .ok (reference, rest)) : Legal rest :=
  legal_subset (legal_cons.1 legal).2 (suffix_scanReference read).subset

theorem legal_expandValue (declarations : Declarations) {usable : List Entity}
    {text value : List Char} (entities : LegalEntities usable) (legal : Legal text)
    (expanded : expandValue declarations usable text = .ok value) : Legal value := by
  fun_induction expandValue declarations usable text generalizing value with
  | case1 =>
    cases expanded
    exact legal_nil
  | case4 _ _ _ _ read ih =>
    exact legal_joinTexts (legal_singleton (legal_scanReference read))
      (fun _ => ih entities (legal_after legal read)) expanded
  | case5 _ _ _ _ read _ known ih =>
    exact legal_joinTexts (legal_singleton (isLegal_of_predefined? known))
      (fun _ => ih entities (legal_after legal read)) expanded
  | case8 =>
    rename_i read _ _ _ _ ih
    exact ih entities (legal_after legal read) expanded
  | case12 =>
    rename_i read _ _ _ _ taken _ found inside ih
    obtain ⟨inner, others⟩ := legal_takeEntity entities taken
    exact legal_joinTexts (inside others inner found)
      (fun _ => ih entities (legal_after legal read))
      expanded
  | case14 _ _ ih =>
    have rest := (legal_cons.1 (legal_cons.1 legal).2).2
    exact legal_joinTexts (legal_singleton (by decide)) (fun _ => ih entities rest) expanded
  | case15 _ c _ _ _ _ ih =>
    obtain ⟨first, rest⟩ := legal_cons.1 legal
    refine legal_joinTexts (legal_singleton ?_) (fun _ => ih entities rest) expanded
    split
    · decide
    · exact first
  | _ => cases expanded

end RecordProjection.Markup
