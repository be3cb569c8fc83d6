import RecordProjection.Proofs.Directive.Body
import RecordProjection.Proofs.Reading
import RecordProjection.Directive.Membership

/-! What directives take from their annotations: names, documentation, and annotations to add. All
of it is made of characters of the annotation, and an annotation to add has no blanks at its ends.
-/

namespace RecordProjection.Directive
open Text

theorem slice_contiguous (text : String) (start stop : Nat) :
    (slice text start stop).toList <:+: text.toList := by
  rw [slice, String.toList_ofList]
  exact (List.drop_suffix _ _).isInfix.trans (List.take_prefix _ _).isInfix

theorem behindPath_contiguous (path note : String) :
    (behindPath path note).toList <:+: note.toList := by
  rw [behindPath, String.toList_ofList]
  exact (List.drop_suffix _ _).isInfix.trans (trim_contiguous note)

theorem body_contiguous {path note text : String} (read : body path note = .ok text) :
    text.toList <:+: note.toList := by
  obtain ⟨opener, inner, closer, -, rfl⟩ := encloses_of_body read
  exact (slice_contiguous _ _ _).trans (behindPath_contiguous path note)

theorem contiguous_of_mem_splitTopLevel {tokens segment : List Token}
    (member : segment ∈ splitTopLevel tokens) : segment <:+: tokens :=
  (listed_splitTopLevel tokens).contiguous segment member

theorem mem_overrideParts {segments selectors : List (List Token)} {last : List Token}
    (parts : overrideParts segments = some (selectors, last)) : last ∈ segments := by
  unfold overrideParts at parts
  split at parts
  · cases parts
  · cases parts
  · rename_i first second others
    cases parts
    exact List.mem_cons_of_mem _ List.getLastD_mem_cons

theorem token_subset {text : String} {token : Token} (member : token ∈ tokenize text) :
    token.text.toList ⊆ text.toList := by
  obtain ⟨before, after, split, -⟩ := (stands_of_mem_scan member).found
  rw [split]
  exact fun c inside => List.mem_append_left _ (List.mem_append_right _ inside)

theorem isTrimmed_slice {text : String} {first last : Token} (opening : first ∈ tokenize text)
    (closing : last ∈ tokenize text) (order : first = last ∨ first.stop ≤ last.start) :
    IsTrimmed (slice text first.start last.stop) := by
  have opens := stands_of_mem_scan opening
  have closes := stands_of_mem_scan closing
  have ordered : first.start ≤ last.start ∧ first.stop ≤ last.stop := by
    have long := closes.measured
    rcases order with rfl | behind
    · exact ⟨Nat.le_refl _, Nat.le_refl _⟩
    · have short := opens.measured
      omega
  have word := opens.measured
  obtain ⟨before, after, split, place⟩ := opens.found
  obtain ⟨front, rest, whole, spot⟩ := closes.found
  rw [Nat.zero_add] at place spot
  apply isTrimmed_of_solid
  · have cut : (slice text first.start last.stop).toList =
        first.text.toList ++ after.take (last.stop - first.stop) := by
      have reached : (before ++ first.text.toList).length = first.stop := by
        rw [List.length_append, word, place]
      rw [slice, String.toList_ofList, split, List.take_append,
        List.take_of_length_le (reached ▸ ordered.2), reached, List.append_assoc, place,
        List.drop_left]
    exact cut ▸ startsSolid_append opens.present opens.opens _
  · have cut : (slice text first.start last.stop).toList =
        front.drop first.start ++ last.text.toList := by
      have reached : (front ++ last.text.toList).length = last.stop := by
        rw [List.length_append, closes.measured, spot]
      rw [slice, String.toList_ofList, whole, List.take_left' reached,
        List.drop_append_of_le_length (spot ▸ ordered.1)]
    exact cut ▸ endsSolid_append closes.present closes.closes _

theorem parts_of_override {note : String} {result : Override} (read : override note = .ok result) :
    ∃ text selectors first rest, body DirectiveKind.override.path note = .ok text ∧
      overrideParts (splitTopLevel (tokenize text)) = some (selectors, first :: rest) ∧
      Selector.parseUnion selectors = .ok result.selector ∧
      result.added = segmentText text first rest ∧ isDirective result.added = false := by
  obtain ⟨text, inside, read⟩ := bind_eq_ok read
  split at read
  · rename_i selectors first rest parts
    dsimp only at read
    split at read
    · cases read
    · rename_i undirected
      obtain ⟨selector, union, read⟩ := bind_eq_ok read
      cases read
      exact ⟨text, selectors, first, rest, inside, parts, union, rfl, by simpa using undirected⟩
  · cases read

theorem override_excerpt {note : String} {added : Override} (read : override note = .ok added) :
    IsTrimmed added.added ∧ added.added.toList <:+: note.toList := by
  obtain ⟨text, selectors, first, rest, inside, parts, -, same, -⟩ := parts_of_override read
  rw [same]
  have within := contiguous_of_mem_splitTopLevel (mem_overrideParts parts)
  refine ⟨?_, (slice_contiguous _ _ _).trans (body_contiguous inside)⟩
  -- The segment keeps the order of the tokens: its last one is the first or stands behind it.
  have last : rest.getLastD first ∈ first :: rest := List.getLastD_mem_cons
  refine isTrimmed_slice (within.subset List.mem_cons_self) (within.subset last) ?_
  rcases List.mem_cons.1 last with same | later
  · exact .inl same.symm
  · have ordered := (pairwise_scan 0 text.toList).sublist within.sublist
    exact .inr (List.rel_of_pairwise_cons ordered later)

theorem unescape_subset (text : List Char) : unescape text ⊆ text := by
  fun_induction unescape text with
  | case1 => exact List.Subset.refl _
  | case2 c => exact List.Subset.refl _
  | case3 c d rest escaped ih =>
    exact List.subset_cons_of_subset c (List.cons_subset_cons d ih)
  | case4 c d rest plain ih => exact List.cons_subset_cons c ih

theorem unquote_subset (literal : String) : (unquote literal).toList ⊆ literal.toList := by
  rw [unquote, String.toList_ofList]
  exact List.Subset.trans (unescape_subset _)
    (List.Subset.trans (List.dropLast_subset _) (List.drop_subset _ _))

theorem splitDocumentation_subset {text words : String} {segment tokens : List Token}
    (member : segment ∈ splitTopLevel (tokenize text))
    (found : splitDocumentation segment = (some words, tokens)) : words.toList ⊆ text.toList := by
  unfold splitDocumentation at found
  split at found
  · cases found
  · rename_i token rest
    split at found
    · cases found
      have listed := (contiguous_of_mem_splitTopLevel member).subset List.mem_cons_self
      exact List.Subset.trans (unquote_subset _) (token_subset listed)
    · cases found

theorem splitDocumentation_suffix {segment tokens : List Token} {documentation : Option String}
    (found : splitDocumentation segment = (documentation, tokens)) : tokens <:+ segment := by
  unfold splitDocumentation at found
  split at found
  · cases found
    exact List.suffix_rfl
  · split at found
    · cases found
      exact List.suffix_cons _ _
    · cases found
      exact List.suffix_rfl

theorem nameEntry_eq_ok {segment : List Token} {entry : NameEntry}
    (read : nameEntry segment = .ok entry) :
    isName entry.name = true ∧ ∃ token, token.text = entry.name ∧
      splitDocumentation segment = (entry.documentation, [token]) := by
  unfold nameEntry at read
  split at read
  rename_i documentation tokens found
  dsimp only at read
  split at read
  · rename_i token
    split at read
    · rename_i named
      cases read
      exact ⟨named, token, rfl, found⟩
    · cases read
  · cases read

theorem declaredNames_excerpt {note : String} {entries : List NameEntry}
    (read : declaredNames note = .ok entries) : ∀ entry ∈ entries, isName entry.name = true ∧
      ∀ words, entry.documentation = some words → words.toList ⊆ note.toList := by
  obtain ⟨text, inside, read⟩ := bind_eq_ok read
  intro entry member
  obtain ⟨segment, listed, read⟩ := mem_of_mapM_ok read entry member
  obtain ⟨named, token, -, found⟩ := nameEntry_eq_ok read
  refine ⟨named, fun words documented => ?_⟩
  rw [documented] at found
  exact List.Subset.trans (splitDocumentation_subset listed found) (body_contiguous inside).subset

theorem membership_excerpt {note : String} {entries : Membership}
    (read : membership note = .ok entries) : ∀ entry ∈ entries,
      ∀ words, entry.documentation = some words → words.toList ⊆ note.toList := by
  obtain ⟨text, inside, read⟩ := bind_eq_ok read
  intro entry member
  obtain ⟨segment, listed, read⟩ := mem_of_mapM_ok read entry member
  unfold membershipEntry at read
  split at read
  rename_i documentation tokens found
  obtain ⟨selector, -, read⟩ := bind_eq_ok read
  cases read
  intro words documented
  dsimp only at documented
  subst documented
  exact List.Subset.trans (splitDocumentation_subset listed found) (body_contiguous inside).subset

end RecordProjection.Directive
