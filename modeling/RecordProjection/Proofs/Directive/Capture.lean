import RecordProjection.Proofs.Directive.Membership

/-! Annotations in overrides. What stands behind the last comma of an override is taken as it is
written, whatever it is made of, if its brackets and commas are all its own and it is no directive;
and nothing else is ever taken. -/

namespace RecordProjection
open Directive Text

namespace Directive

structure IsAddition (text : String) : Prop where
  present : text ≠ ""
  trimmed : IsTrimmed text
  balanced : Balanced (tokenize text)
  undivided : Undivided 0 (tokenize text)
  undirected : isDirective text = false

section Capturing
variable {names tail : String} {selectors : List Selector}

theorem tokenize_captured (added : String) (plain : ∀ token ∈ tokenize names, token.text ≠ "\"")
    (closed : tail = "" ∨ tail = ",") :
    ∃ comma, comma.IsComma ∧ tokenize (names ++ ", " ++ added ++ tail) =
      tokenize names ++ comma :: (scan (names ++ ", ").length added.toList ++
        scan (names ++ ", " ++ added).length tail.toList) := by
  -- A quote that the annotation leaves open is not closed by what follows it either.
  have behind : WordEnds (names ++ ", " ++ added).toList tail.toList ∧
      doubleQuote ∉ tail.toList := by
    rcases closed with rfl | rfl
    · exact ⟨by rintro - - - c ⟨⟩, by decide⟩
    · exact ⟨by rintro - - - c ⟨⟩; decide, by decide⟩
  refine ⟨⟨.comma, ",", names.length, names.length + 1⟩, rfl, ?_⟩
  have first : scan 0 (names ++ ", " ++ added).toList =
      tokenize names ++ ⟨.comma, ",", names.length, names.length + 1⟩ ::
        scan (names ++ ", ").length added.toList := by
    rw [String.toList_append, String.toList_append, List.append_assoc]
    change scan 0 (names.toList ++ ',' :: ' ' :: added.toList) = _
    rw [scan_comma _ plain, Nat.zero_add, String.length_toList, scan_blank (by decide),
      String.length_append]
    rfl
  rw [tokenize, String.toList_append,
    scan_append behind.1 fun quoted => absurd quoted behind.2, first, Nat.zero_add,
    String.length_toList, List.append_assoc, List.cons_append]

theorem listed_captured (added : String) (present : selectors ≠ [])
    (named : ∀ selector ∈ selectors, selector.Named)
    (spaced : Spaced ([","].intercalate (selectors.map Selector.words)) names.toList)
    (closed : tail = "" ∨ tail = ",") :
    ∃ operands : List (List Token × Selector), operands.map Prod.snd = selectors ∧
      (∀ operand ∈ operands, Selector.Denotes operand.1 operand.2) ∧
      Listed Token.IsComma
        (operands.map Prod.fst ++ [scan (names ++ ", ").length added.toList])
        (tokenize (names ++ ", " ++ added ++ tail)) := by
  have several : selectors.map Selector.words ≠ [] := by simpa using present
  have joined := joined_intercalate "," several
  have legible : Legible ([","].intercalate (selectors.map Selector.words)) :=
    .joined joined (List.forall_mem_map.2 fun selector member =>
      selector.legible_words (named selector member))
  have written := isWritten_tokenize spaced legible
  have plain : ∀ token ∈ tokenize names, token.text ≠ "\"" := fun token member =>
    (legible.lexemes token.text (written.texts ▸ List.mem_map_of_mem member)).1
  obtain ⟨operands, rfl, commas, each⟩ := written.joined joined
  obtain ⟨comma, isComma, tokens⟩ := tokenize_captured added plain closed
  refine ⟨operands, rfl, fun operand member => ?_, ?_⟩
  · exact Selector.denotes_of_words (named operand.2 (List.mem_map_of_mem member))
      (each operand member)
  · have whole : Joined Token.IsComma _ (tokenize names ++ comma ::
        scan (names ++ ", ").length added.toList) := commas.snoc isComma
    rw [tokens]
    rcases closed with rfl | rfl
    · rw [String.toList_empty, scan_nil, List.append_nil]
      exact .joined whole
    · rw [scan_lexeme isLexeme_comma, ← List.cons_append, ← List.append_assoc]
      exact .closed whole rfl

theorem overrideParts_concat {items : List (List Token)} {last : List Token}
    (present : items ≠ []) : overrideParts (items ++ [last]) = some (items, last) := by
  obtain ⟨first, others, rfl⟩ := List.exists_cons_of_ne_nil present
  obtain ⟨second, behind, split⟩ : ∃ second behind, others ++ [last] = second :: behind :=
    List.exists_cons_of_ne_nil (by simp)
  have final : (others ++ [last]).getLast? = some last := List.getLast?_concat
  rw [split, List.getLast?_cons, ← List.getLastD_eq_getLast?, Option.some.injEq] at final
  rw [List.cons_append, split, overrideParts, final, ← split, ← List.cons_append,
    List.dropLast_concat]

theorem override_captured {added : String} (present : selectors ≠ [])
    (named : ∀ selector ∈ selectors, selector.Named)
    (spaced : Spaced ([","].intercalate (selectors.map Selector.words)) names.toList)
    (addition : IsAddition added) (closed : tail = "" ∨ tail = ",") :
    override (DirectiveKind.override.path ++ ("(" ++ (names ++ ", " ++ added ++ tail) ++ ")")) =
      .ok ⟨Selector.union selectors, added⟩ := by
  obtain ⟨first, rest, tokens, start, stop⟩ :=
    scan_trimmed addition.present addition.trimmed (names ++ ", ").length
  have shapes : (tokenize added).map Token.shape = (first :: rest).map Token.shape := by
    rw [← tokens, ← Nat.zero_add (names ++ ", ").length, scan_moved, List.map_map]
    rfl
  obtain ⟨operands, rfl, denoted, listed⟩ :=
    listed_captured added present named spaced closed
  rw [tokens] at listed
  have items : ∀ item ∈ operands.map Prod.fst ++ [first :: rest], IsItem item := by
    refine List.forall_mem_append.2 ⟨List.forall_mem_map.2 fun operand member =>
      (denoted operand member).isItem, List.forall_mem_singleton.2 ⟨List.cons_ne_nil _ _,
        addition.balanced.congr shapes, addition.undivided.congr shapes⟩⟩
  have segment : segmentText (names ++ ", " ++ added ++ tail) first rest = added := by
    rw [segmentText, start, stop]
    exact slice_middle (names ++ ", ") added tail
  have several : operands.map Prod.fst ≠ [] := by simpa using present
  rw [override, body_parentheses (isIdentifier_path .override) (listed.balanced items)]
  dsimp only [bind, Except.bind]
  rw [splitTopLevel_listed listed items, overrideParts_concat several]
  dsimp only
  rw [segment, if_neg (by simp [addition.undirected]), Selector.parseUnion,
    mapM_map_of_ok Prod.fst Prod.snd fun operand member => (denoted operand member).parse]
  rfl

end Capturing

theorem isAddition_of_override {note : String} {result : Override}
    (read : override note = .ok result) : IsAddition result.added := by
  obtain ⟨text, selectors, first, rest, inside, parts, -, same, undirected⟩ :=
    parts_of_override read
  have member := mem_overrideParts parts
  -- Cutting the segment out cuts none of its tokens, so they are found again in what is taken.
  have shapes := shapes_segmentText (contiguous_of_mem_splitTopLevel member)
  have segment := mem_segmentsFrom_of_mem_splitTopLevel member
  rw [← same] at shapes
  refine ⟨?_, (override_excerpt read).1,
    (balanced_of_mem_segmentsFrom _ (balanced_of_body inside) _ segment).congr shapes.symm,
    (undivided_of_mem_segmentsFrom _ _ segment).congr shapes.symm, undirected⟩
  rintro none
  rw [none, tokenize, String.toList_empty, scan_nil] at shapes
  cases shapes

end Directive

/-- An override takes the annotation behind its selectors as it is written; and what it takes is a
part of the directive that is no directive itself. -/
theorem override_takes_verbatim :
    (∀ (selectors : List Selector) (names added tail : String), selectors ≠ [] →
      (∀ selector ∈ selectors, selector.Named) →
      Spaced ([","].intercalate (selectors.map Selector.words)) names.toList →
      IsAddition added → tail = "" ∨ tail = "," →
      override (DirectiveKind.override.path ++ ("(" ++ (names ++ ", " ++ added ++ tail) ++ ")")) =
        .ok ⟨Selector.union selectors, added⟩) ∧
      ∀ (note : String) (result : Override), override note = .ok result →
        result.added.toList <:+: note.toList ∧ IsAddition result.added :=
  ⟨fun _ _ _ _ present named spaced addition closed =>
      override_captured present named spaced addition closed,
    fun _ _ read => ⟨(override_excerpt read).2, isAddition_of_override read⟩⟩

theorem override_takes_verbatim_unclosed :
    let selectors : List Selector := [.not (.any []), .name "B"]
    let added := "x(\"(,\", [a, 'b]) \""
    (∀ selector ∈ selectors, selector.Named) ∧
      Spaced ([","].intercalate (selectors.map Selector.words)) "not( any()) , B".toList ∧
      IsAddition added ∧
      override "substruct_attr(not( any()) , B, x(\"(,\", [a, 'b]) \",)" =
        .ok ⟨.any selectors, added⟩ ∧
      added.toList <:+: "substruct_attr(not( any()) , B, x(\"(,\", [a, 'b]) \",)".toList := by
  intro selectors added
  have named : ∀ selector ∈ selectors, selector.Named := by
    unfold Selector.Named
    decide
  have bare : ∀ c ∈ ([] : List Char), isBlank c = true := List.forall_mem_nil _
  have space : ∀ c ∈ [' '], isBlank c = true := List.forall_mem_singleton.2 rfl
  have spaced : Spaced ([","].intercalate (selectors.map Selector.words))
      "not( any()) , B".toList :=
    @Spaced.word _ _ "not" _ bare <| @Spaced.word _ _ "(" _ bare <|
    @Spaced.word _ _ "any" _ space <| @Spaced.word _ _ "(" _ bare <|
    @Spaced.word _ _ ")" _ bare <| @Spaced.word _ _ ")" _ bare <|
    @Spaced.word _ _ "," _ space <| @Spaced.word _ _ "B" _ space <| .done bare
  have enclosed : body "p" "p(x(\"(,\", [a, 'b]) \")" = .ok added := by decide +kernel
  have alone : segmentsFrom 0 (tokenize added) = [tokenize added] := by decide +kernel
  have addition : IsAddition added := ⟨by decide, by decide, balanced_of_body enclosed,
    undivided_of_mem_segmentsFrom _ _ (alone ▸ List.mem_cons_self), by decide +kernel⟩
  have read := override_takes_verbatim.1 selectors _ added "," (by decide) named spaced addition
    (.inr rfl)
  exact ⟨named, spaced, addition, read, (override_takes_verbatim.2 _ _ read).1⟩

end RecordProjection
