import RecordProjection.Proofs.Directive.Excerpt

/-! Tokens of what is cut out of a text. Between the start of a token and the end of that or a later
one stand the tokens of the text itself, and so they do up to the end of the text. A directive
therefore reads its body, and the annotation in it, as they were read when they were found. -/

namespace RecordProjection.Directive
open Text

section Lists
variable {α : Type} {list : List α} {i j : Nat} {first last : α}

theorem drop_eq_cons (starts : list[i]? = some first) :
    list.drop i = first :: list.drop (i + 1) := by
  obtain ⟨within, same⟩ := List.getElem?_eq_some_iff.1 starts
  rw [List.drop_eq_getElem_cons within, same]

theorem exists_segment (order : i ≤ j) (starts : list[i]? = some first)
    (ends : list[j]? = some last) :
    ∃ rest, (list.take (j + 1)).drop i = first :: rest ∧ rest.getLastD first = last := by
  have head : (list.take (j + 1))[i]? = some first := by
    rw [List.getElem?_take_of_lt (Nat.lt_succ_of_le order), starts]
  have within : i < (list.take (j + 1)).length := (List.getElem?_eq_some_iff.1 head).1
  have split := drop_eq_cons head
  refine ⟨_, split, ?_⟩
  have final : (list.take (j + 1)).getLast? = some last := by
    rw [List.getLast?_take, if_neg (Nat.succ_ne_zero j), Nat.add_sub_cancel, ends, Option.some_or]
  have tail : ((list.take (j + 1)).drop i).getLast? = some last := by
    rw [List.getLast?_drop, if_neg (Nat.not_le.2 within), final]
  rw [split, List.getLast?_cons, ← List.getLastD_eq_getLast?] at tail
  exact Option.some.inj tail

end Lists

section Cuts
variable {text : String}

theorem tokenize_segment {i j : Nat} {first last : Token} (order : i ≤ j)
    (starts : (tokenize text)[i]? = some first) (ends : (tokenize text)[j]? = some last) :
    (tokenize (slice text first.start last.stop)).map (Token.moved first.start) =
      ((tokenize text).take (j + 1)).drop i := by
  obtain ⟨rest, split, final⟩ := exists_segment order starts ends
  have part : first :: rest <:+: tokenize text := by
    rw [← split]
    exact (List.drop_suffix _ _).isInfix.trans (List.take_prefix _ _).isInfix
  rw [split, ← tokenize_segmentText part, segmentText, final]

/-- What follows a token is read as it was, however far a string would look ahead. -/
theorem tokenize_rest {i : Nat} {first : Token} (starts : (tokenize text)[i]? = some first) :
    (tokenize (slice text first.start text.length)).map (Token.moved first.start) =
      (tokenize text).drop i := by
  have split := drop_eq_cons starts
  have order := pairwise_scan 0 text.toList
  rw [← tokenize, ← List.take_append_drop i (tokenize text), split, List.pairwise_append] at order
  obtain ⟨-, inner, earlier⟩ := order
  have part : ∀ token ∈ first :: (tokenize text).drop (i + 1), token ∈ tokenize text := by
    rw [← split]
    exact fun token member => List.mem_of_mem_drop member
  have bounds := bounds_of_pairwise inner fun token member => start_lt_stop (part token member)
  have whole : tokenize text =
      (tokenize text).take i ++ first :: (tokenize text).drop (i + 1) ++ [] := by
    rw [List.append_nil, ← split, List.take_append_drop]
  rw [split]
  refine tokenize_slice whole ?_ ?_ (List.forall_mem_nil _) ?_
  · exact fun token member => earlier token member first List.mem_cons_self
  · exact fun token member => ⟨(bounds token member).1, (text_eq_slice (part token member)).1⟩
  · have long := start_lt_stop (part first List.mem_cons_self)
    have room := (text_eq_slice (part first List.mem_cons_self)).1
    omega

theorem tokenize_of_override {note : String} {result : Override}
    (read : override note = .ok result) :
    ∃ (text : String) (first : Token) (rest : List Token),
      body DirectiveKind.override.path note = .ok text ∧
        result.added = segmentText text first rest ∧ first :: rest <:+: tokenize text ∧
        (tokenize result.added).map (Token.moved first.start) = first :: rest := by
  obtain ⟨text, selectors, first, rest, inside, parts, -, same, -⟩ := parts_of_override read
  have part := contiguous_of_mem_splitTopLevel (mem_overrideParts parts)
  refine ⟨text, first, rest, inside, same, part, ?_⟩
  rw [same]
  exact tokenize_segmentText part

end Cuts

/-- Tokens are the same in what is cut out of a text between them, and so in the body of a directive
and in the annotation that an override adds. -/
theorem tokens_of_cut :
    (∀ (text : String) (i j : Nat) (first last : Token), i ≤ j →
      (tokenize text)[i]? = some first → (tokenize text)[j]? = some last →
      (tokenize (slice text first.start last.stop)).map (Token.moved first.start) =
        ((tokenize text).take (j + 1)).drop i) ∧
    (∀ (text : String) (i : Nat) (first : Token), (tokenize text)[i]? = some first →
      (tokenize (slice text first.start text.length)).map (Token.moved first.start) =
        (tokenize text).drop i) ∧
    (∀ path note text : String, body path note = .ok text → ∃ opener closer : Token,
      tokenize (behindPath path note) =
          opener :: ((tokenize text).map (Token.moved opener.stop) ++ [closer]) ∧
        opener.text = "(" ∧ closer.text = ")") ∧
    ∀ (note : String) (result : Override), override note = .ok result →
      ∃ (text : String) (first : Token) (rest : List Token),
        body DirectiveKind.override.path note = .ok text ∧
          result.added = segmentText text first rest ∧ first :: rest <:+: tokenize text ∧
          (tokenize result.added).map (Token.moved first.start) = first :: rest := by
  refine ⟨?_, ?_, ?_, ?_⟩
  · intro text i j first last order starts ends
    exact tokenize_segment order starts ends
  · intro text i first starts
    exact tokenize_rest starts
  · intro path note text read
    exact tokenize_of_body read
  · intro note result read
    exact tokenize_of_override read

theorem tokens_of_cut_quoted :
    let text := "a \"(b\" 'c \"d"
    let string : Token := ⟨.string, "\"(b\"", 2, 6⟩
    let lifetime : Token := ⟨.ident, "'c", 7, 9⟩
    let note := "substruct_attr(A, x(\"(\") \")"
    let added := "x(\"(\") \""
    (tokenize text)[1]? = some string ∧ (tokenize text)[2]? = some lifetime ∧
      (tokenize (slice text 2 9)).map (Token.moved 2) = [string, lifetime] ∧
      (tokenize (slice text 7 text.length)).map (Token.moved 7) = (tokenize text).drop 2 ∧
      override note = .ok ⟨.name "A", added⟩ ∧
      ∃ inner first rest, first :: rest <:+: tokenize inner ∧
        (tokenize added).map (Token.moved first.start) = first :: rest := by
  intro text string lifetime note added
  have tokens : tokenize text = [⟨.ident, "a", 0, 1⟩, string, lifetime, ⟨.punct, "\"", 10, 11⟩,
      ⟨.ident, "d", 11, 12⟩] := by decide +kernel
  have second : (tokenize text)[1]? = some string := by rw [tokens]; rfl
  have third : (tokenize text)[2]? = some lifetime := by rw [tokens]; rfl
  have read : override note = .ok ⟨.name "A", added⟩ := by
    let first : Token := ⟨.ident, "x", 3, 4⟩
    let rest : List Token := [⟨.opening, "(", 4, 5⟩, ⟨.string, "\"(\"", 5, 8⟩,
      ⟨.closing, ")", 8, 9⟩, ⟨.punct, "\"", 10, 11⟩]
    have inside : body DirectiveKind.override.path "substruct_attr(A, x(\"(\") \")" =
        .ok "A, x(\"(\") \"" := by
      decide +kernel
    have parts : overrideParts (splitTopLevel (tokenize "A, x(\"(\") \"")) =
        some ([[⟨.ident, "A", 0, 1⟩]], first :: rest) := by
      decide +kernel
    have captured : segmentText "A, x(\"(\") \"" first rest = "x(\"(\") \"" := by decide +kernel
    have undirected : isDirective "x(\"(\") \"" = false := by decide +kernel
    have name : Selector.isNameToken ⟨.ident, "A", 0, 1⟩ = true := by decide
    rw [override, inside]
    dsimp only [bind, Except.bind]
    rw [parts]
    dsimp only
    rw [captured, undirected, Selector.parseUnion, List.mapM_cons, Selector.parse, if_pos name,
      List.mapM_nil]
    rfl
  obtain ⟨segments, rests, -, additions⟩ := tokens_of_cut
  have segment := segments text 1 2 string lifetime (by decide) second third
  obtain ⟨inner, first, rest, -, -, part, moved⟩ := additions note _ read
  refine ⟨second, third, ?_, rests text 2 lifetime third, read, inner, first, rest, part, moved⟩
  rw [tokens] at segment
  exact segment

end RecordProjection.Directive
