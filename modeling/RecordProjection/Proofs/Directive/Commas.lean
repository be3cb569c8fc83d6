import RecordProjection.Proofs.Directive.Matching

/-! Commas that split. The segments of a list of tokens are what stands between the commas outside
of all brackets: put together with these commas they are the list again, but for one comma at its
end, and there is one more of them than of the commas between them. -/

namespace RecordProjection.Directive

/-- Whether a token of a list is a comma outside of all brackets: as many brackets are opened as
closed before its place. -/
def isTopComma (tokens : List Token) (entry : Token × Nat) : Bool :=
  entry.1.kind = .comma && nesting (tokens.take entry.2) = 0

def topCommas (tokens : List Token) : List Token :=
  (tokens.zipIdx.filter (isTopComma tokens)).map Prod.fst

def ClosedByComma (tokens : List Token) : Prop :=
  ∃ front comma, tokens = front ++ [comma] ∧ comma.IsComma ∧ nesting front = 0

def weave {α : Type} : List (List α) → List α → List α
  | piece :: pieces, separator :: separators => piece ++ separator :: weave pieces separators
  | pieces, _ => pieces.flatten

theorem weave_concat {α : Type} {pieces : List (List α)} {separators : List α} (last : List α)
    (separator : α) (fits : pieces.length = separators.length + 1) :
    weave (pieces ++ [last]) (separators ++ [separator]) =
      weave pieces separators ++ separator :: last := by
  induction separators generalizing pieces with
  | nil =>
    obtain ⟨piece, rfl⟩ := List.length_eq_one_iff.1 fits
    simp [weave]
  | cons first others ih =>
    obtain ⟨piece, more, rfl⟩ := List.exists_cons_of_length_eq_add_one fits
    have behind := ih (Nat.succ.inj fits)
    simp only [List.cons_append, weave, behind, List.append_assoc]

section TopCommas
variable {item rest tokens : List Token} {comma : Token}

theorem isTopComma_eq_true_iff {entry : Token × Nat} :
    isTopComma tokens entry = true ↔ entry.1.IsComma ∧ nesting (tokens.take entry.2) = 0 := by
  rw [isTopComma, Bool.and_eq_true, decide_eq_true_eq, decide_eq_true_eq, Token.IsComma]

theorem topCommas_undivided (undivided : Undivided 0 tokens) : topCommas tokens = [] := by
  rw [topCommas, List.map_eq_nil_iff, List.filter_eq_nil_iff]
  rintro ⟨token, place⟩ member
  obtain ⟨inside, same⟩ := List.getElem?_eq_some_iff.1 (List.mk_mem_zipIdx_iff_getElem?.1 member)
  rw [isTopComma_eq_true_iff]
  rintro ⟨isComma, closed⟩
  refine undivided (tokens.take place) token (tokens.drop (place + 1)) ?_ isComma
    ((Int.zero_add _).trans closed)
  rw [← same, List.getElem_cons_drop, List.take_append_drop]

theorem isTopComma_before (rest : List Token) {entry : Token × Nat} (member : entry ∈ item.zipIdx) :
    isTopComma (item ++ rest) entry = isTopComma item entry := by
  rw [isTopComma, List.take_append_of_le_length (Nat.le_of_lt (List.snd_lt_of_mem_zipIdx member))]
  rfl

theorem isTopComma_behind (closed : nesting item = 0) (isComma : comma.IsComma)
    (entry : Token × Nat) :
    isTopComma (item ++ comma :: rest) (entry.1, item.length + 1 + entry.2) =
      isTopComma rest entry := by
  have depth : nesting ((item ++ comma :: rest).take (item.length + 1 + entry.2)) =
      nesting (rest.take entry.2) := by
    rw [Nat.add_assoc, List.take_length_add_append, Nat.add_comm 1, List.take_succ_cons,
      nesting_append, nesting_cons, nesting_plain isComma.plain, closed, Int.zero_add, Int.zero_add]
  rw [isTopComma, depth]
  rfl

theorem topCommas_append (undivided : Undivided 0 item) (closed : nesting item = 0)
    (isComma : comma.IsComma) : topCommas (item ++ comma :: rest) = comma :: topCommas rest := by
  have places : (item ++ comma :: rest).zipIdx = item.zipIdx ++ (comma, item.length) ::
      rest.zipIdx.map fun (token, place) => (token, item.length + 1 + place) := by
    rw [List.zipIdx_append, List.zipIdx_cons, List.zipIdx_eq_map_add (l := rest), Nat.zero_add]
  have own : item.zipIdx.filter (isTopComma (item ++ comma :: rest)) = [] := by
    rw [List.filter_congr fun entry => isTopComma_before (comma :: rest)]
    exact List.map_eq_nil_iff.1 (topCommas_undivided undivided)
  have next : isTopComma (item ++ comma :: rest) (comma, item.length) = true := by
    rw [isTopComma_eq_true_iff, List.take_left]
    exact ⟨isComma, closed⟩
  rw [topCommas, places, List.filter_append, own, List.nil_append, List.filter_cons_of_pos next,
    List.map_cons, List.filter_map, List.map_map, topCommas]
  congr 2
  exact List.filter_congr fun entry _ => isTopComma_behind closed isComma entry

end TopCommas

section Segments

theorem length_segmentsFrom (tokens : List Token) :
    (segmentsFrom 0 tokens).length = (topCommas tokens).length + 1 := by
  refine segments_induction (motive := fun tokens segments =>
    segments.length = (topCommas tokens).length + 1) ?_ ?_ tokens
  · intro tokens undivided
    rw [topCommas_undivided undivided]
    rfl
  · intro item comma rest isComma undivided closed behind
    rw [topCommas_append undivided closed isComma, List.length_cons, List.length_cons, behind]

theorem weave_segmentsFrom (tokens : List Token) :
    weave (segmentsFrom 0 tokens) (topCommas tokens) = tokens := by
  refine segments_induction (motive := fun tokens segments =>
    weave segments (topCommas tokens) = tokens) ?_ ?_ tokens
  · intro tokens undivided
    rw [topCommas_undivided undivided]
    simp [weave]
  · intro item comma rest isComma undivided closed behind
    rw [topCommas_append undivided closed isComma, weave, behind]

theorem nesting_before_segment (tokens : List Token) :
    ∀ front segment behind, segmentsFrom 0 tokens = front ++ segment :: behind →
      nesting front.flatten = 0 := by
  refine segments_induction (motive := fun _ segments => ∀ front segment behind,
    segments = front ++ segment :: behind → nesting front.flatten = 0) ?_ ?_ tokens
  · intro tokens undivided front segment behind split
    have alone := congrArg List.length split
    simp only [List.length_append, List.length_cons, List.length_nil] at alone
    obtain rfl : front = [] := List.length_eq_zero_iff.1 (by omega)
    rfl
  · intro item comma rest isComma undivided closed others front segment behind split
    cases front with
    | nil => rfl
    | cons first front =>
      obtain ⟨rfl, later⟩ := List.cons.inj split
      rw [List.flatten_cons, nesting_append, closed, others front segment behind later]
      rfl

theorem Undivided.not_closedByComma {tokens : List Token} (undivided : Undivided 0 tokens) :
    ¬ ClosedByComma tokens := by
  rintro ⟨front, comma, rfl, isComma, closed⟩
  exact undivided front comma [] rfl isComma (by omega)

theorem closedByComma_append {item rest : List Token} {comma : Token} (closed : nesting item = 0)
    (isComma : comma.IsComma) :
    ClosedByComma (item ++ comma :: rest) ↔ rest = [] ∨ ClosedByComma rest := by
  have before : nesting (item ++ [comma]) = 0 := by
    rw [nesting_append, closed, nesting_plain isComma.plain]
    rfl
  rw [List.append_cons]
  constructor
  · rintro ⟨front, last, split, ends, depth⟩
    rcases rest.eq_nil_or_concat with rfl | ⟨more, final, rfl⟩
    · exact .inl rfl
    · rw [List.concat_eq_append, ← List.append_assoc] at split
      obtain ⟨rfl, same⟩ := List.append_inj' split rfl
      obtain ⟨rfl, -⟩ := List.cons.inj same
      refine .inr ⟨more, final, List.concat_eq_append, ends, ?_⟩
      rwa [nesting_append, before, Int.zero_add] at depth
  · rintro (rfl | ⟨front, last, rfl, ends, depth⟩)
    · exact ⟨item, comma, List.append_nil _, isComma, closed⟩
    · refine ⟨item ++ [comma] ++ front, last, (List.append_assoc ..).symm, ends, ?_⟩
      rw [nesting_append, before, depth]
      rfl

theorem getLast?_segmentsFrom (tokens : List Token) :
    (segmentsFrom 0 tokens).getLast? = some [] ↔ tokens = [] ∨ ClosedByComma tokens := by
  refine segments_induction (motive := fun tokens segments =>
    segments.getLast? = some [] ↔ tokens = [] ∨ ClosedByComma tokens) ?_ ?_ tokens
  · intro tokens undivided
    simp [undivided.not_closedByComma]
  · intro item comma rest isComma undivided closed behind
    have present : segmentsFrom 0 rest ≠ [] := (joined_segmentsFrom rest).items_ne_nil
    rw [List.getLast?_cons_of_ne_nil present, behind, closedByComma_append closed isComma]
    simp

theorem splitTopLevel_of_open {tokens : List Token} (present : tokens ≠ [])
    (open_ : ¬ ClosedByComma tokens) : splitTopLevel tokens = segmentsFrom 0 tokens := by
  rcases splitTopLevel_cases tokens with ⟨same, -⟩ | whole
  · exact same
  · have last : (segmentsFrom 0 tokens).getLast? = some [] := by rw [whole, List.getLast?_concat]
    exact absurd ((getLast?_segmentsFrom tokens).1 last) (not_or.2 ⟨present, open_⟩)

theorem segmentsFrom_of_closed {tokens : List Token} (closed : tokens = [] ∨ ClosedByComma tokens) :
    segmentsFrom 0 tokens = splitTopLevel tokens ++ [[]] := by
  rcases splitTopLevel_cases tokens with ⟨-, nonempty⟩ | whole
  · exact absurd ((getLast?_segmentsFrom tokens).2 closed) nonempty
  · exact whole

end Segments

/-- How a list of tokens is divided into segments. -/
structure IsDivision (tokens : List Token) (segments : List (List Token)) : Prop where
  /-- No comma of a segment stands where as many brackets are opened as closed before it. -/
  undivided : ∀ front segment behind, segments = front ++ segment :: behind →
    Undivided (nesting front.flatten) segment
  rejoined : ¬ ClosedByComma tokens → weave segments (topCommas tokens) = tokens
  /-- A comma at the end is the only one that is lost. -/
  closed : ∀ front comma, tokens = front ++ [comma] → comma.IsComma → nesting front = 0 →
    weave segments (topCommas tokens).dropLast = front
  count_empty : tokens = [] → segments.length = 0
  count_closed : ClosedByComma tokens → segments.length = (topCommas tokens).length
  count_open : tokens ≠ [] → ¬ ClosedByComma tokens →
    segments.length = (topCommas tokens).length + 1

theorem length_of_closed {tokens : List Token} (closed : tokens = [] ∨ ClosedByComma tokens) :
    (splitTopLevel tokens).length = (topCommas tokens).length := by
  have count := length_segmentsFrom tokens
  rw [segmentsFrom_of_closed closed, List.length_append, List.length_singleton] at count
  exact Nat.succ.inj count

theorem weave_of_closed {front : List Token} {comma : Token} (isComma : comma.IsComma)
    (depth : nesting front = 0) :
    weave (splitTopLevel (front ++ [comma])) (topCommas (front ++ [comma])).dropLast = front := by
  have closed : ClosedByComma (front ++ [comma]) := ⟨front, comma, rfl, isComma, depth⟩
  have whole := weave_segmentsFrom (front ++ [comma])
  have count := length_of_closed (.inr closed)
  rw [segmentsFrom_of_closed (.inr closed)] at whole
  rcases (topCommas (front ++ [comma])).eq_nil_or_concat with none | ⟨commas, last, split⟩
  · rw [none, List.length_nil, List.length_eq_zero_iff] at count
    rw [none, count] at whole
    simp [weave] at whole
  · rw [split, List.concat_eq_append] at whole count ⊢
    rw [List.length_append, List.length_singleton] at count
    rw [weave_concat [] last count] at whole
    rw [List.dropLast_concat]
    exact (List.append_inj' whole rfl).1

theorem isDivision_splitTopLevel (tokens : List Token) :
    IsDivision tokens (splitTopLevel tokens) where
  undivided := by
    intro front segment behind split
    have member : segment ∈ splitTopLevel tokens := by simp [split]
    have start : nesting front.flatten = 0 := by
      rcases splitTopLevel_cases tokens with ⟨same, -⟩ | whole
      · exact nesting_before_segment tokens front segment behind (same ▸ split)
      · refine nesting_before_segment tokens front segment (behind ++ [[]]) ?_
        rw [whole, split, List.append_assoc, List.cons_append]
    rw [start]
    exact undivided_of_mem_segmentsFrom tokens segment
      (mem_segmentsFrom_of_mem_splitTopLevel member)
  rejoined := by
    intro open_
    by_cases present : tokens = []
    · rw [present]
      rfl
    · rw [splitTopLevel_of_open present open_, weave_segmentsFrom]
  closed := by
    rintro front comma rfl isComma depth
    exact weave_of_closed isComma depth
  count_empty := by
    rintro rfl
    rfl
  count_closed := fun closed => length_of_closed (.inr closed)
  count_open := by
    intro present open_
    rw [splitTopLevel_of_open present open_, length_segmentsFrom]

/-- Matching finds a bracket exactly where the brackets up to it are a well-nested word of which no
shorter beginning is one, and splitting divides the tokens exactly at the commas outside of all
brackets. -/
theorem brackets_match_and_commas_divide {tokens : List Token}
    (lexical : ∀ token ∈ tokens, token.IsLexical) :
    (∀ first last, matchingClose tokens first = some last ↔ IsMatch tokens first last) ∧
      (∀ first, (∀ last, ¬ IsMatch tokens first last) → matchingClose tokens first = none) ∧
      IsDivision tokens (splitTopLevel tokens) := by
  refine ⟨fun first last => matchingClose_eq_some_iff lexical, fun first never => ?_,
    isDivision_splitTopLevel tokens⟩
  rw [Option.eq_none_iff_forall_ne_some]
  exact fun last found => never last ((matchingClose_eq_some_iff lexical).1 found)

theorem brackets_match_and_commas_divide_unbalanced :
    let tokens := tokenize "a [b, (c)], d],"
    (∀ token ∈ tokens, token.IsLexical) ∧ IsMatch tokens 0 7 ∧
      (∀ last, ¬ IsMatch tokens 8 last) ∧ IsDivision tokens (splitTopLevel tokens) ∧
      (splitTopLevel tokens).map (List.map Token.text) =
        [["a", "[", "b", ",", "(", "c", ")", "]"], ["d", "]", ","]] := by
  intro tokens
  have lexical : ∀ token ∈ tokens, token.IsLexical := fun _ => isLexical_of_mem_tokenize
  obtain ⟨finds, -, division⟩ := brackets_match_and_commas_divide lexical
  have found : matchingClose (tokenize "a [b, (c)], d],") 0 = some 7 := by decide +kernel
  have none : matchingClose (tokenize "a [b, (c)], d],") 8 = none := by decide +kernel
  have segments : (splitTopLevel (tokenize "a [b, (c)], d],")).map (List.map Token.text) =
      [["a", "[", "b", ",", "(", "c", ")", "]"], ["d", "]", ","]] := by
    decide +kernel
  refine ⟨lexical, (finds 0 7).1 found, fun last matched => ?_, division, segments⟩
  cases none.symm.trans ((finds 8 last).2 matched)

end RecordProjection.Directive
