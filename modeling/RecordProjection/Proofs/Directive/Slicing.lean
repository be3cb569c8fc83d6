import RecordProjection.Proofs.Directive.Lexeme

/-! Tokens of a part of a text. Where no token is cut, a part of a text has the tokens that stand in
it, each at its own place; only their offsets are counted from the start of the part. -/

namespace RecordProjection.Directive
open Text

def Token.moved (count : Nat) (token : Token) : Token :=
  { token with start := token.start + count, stop := token.stop + count }

@[simp] theorem Token.moved_kind (count : Nat) (token : Token) :
    (token.moved count).kind = token.kind := rfl

@[simp] theorem Token.moved_text (count : Nat) (token : Token) :
    (token.moved count).text = token.text := rfl

theorem shapes_moved (count : Nat) (tokens : List Token) :
    (tokens.map (Token.moved count)).map Token.shape = tokens.map Token.shape :=
  List.map_map

theorem IsItem.moved {tokens : List Token} (item : IsItem tokens) (count : Nat) :
    IsItem (tokens.map (Token.moved count)) where
  present := by simpa using item.present
  balanced := item.balanced.congr (shapes_moved count tokens).symm
  undivided := item.undivided.congr (shapes_moved count tokens).symm

theorem scan_moved (start count : Nat) (text : List Char) :
    scan (start + count) text = (scan start text).map (Token.moved count) := by
  fun_induction scan start text with
  | case1 => rw [scan_nil, List.map_nil]
  | case2 start c rest blank ih =>
    rw [scan_blank blank, Nat.add_right_comm]
    exact ih
  | case3 start c rest solid kind length reading ih =>
    rw [Bool.not_eq_true] at solid
    have place : start + count + 1 + length = start + 1 + length + count := by omega
    rw [scan_solid solid, reading, List.map_cons, ← ih, place]
    rfl

theorem start_lt_stop {text : List Char} {start : Nat} {token : Token}
    (member : token ∈ scan start text) : token.start < token.stop := by
  have stands := stands_of_mem_scan member
  have long := List.length_pos_iff.2 stands.present
  have measured := stands.measured
  omega

section Cutting
variable {text : List Char} {start count : Nat} {before after : List Token}

theorem eq_nil_of_stop_le (tokens : scan start text = before ++ after)
    (stops : ∀ token ∈ before, token.stop ≤ start) : before = [] := by
  cases before with
  | nil => rfl
  | cons token others =>
    have member : token ∈ scan start text := by rw [tokens]; simp
    have first := (stands_of_mem_scan member).behind
    have last := stops token List.mem_cons_self
    have inside := start_lt_stop member
    omega

theorem scan_take (tokens : scan start text = before ++ after)
    (stops : ∀ token ∈ before, token.stop ≤ start + count)
    (starts : ∀ token ∈ after, start + count ≤ token.start) :
    scan start (text.take count) = before := by
  fun_induction scan start text generalizing before count with
  | case1 =>
    rw [List.take_nil, scan_nil]
    exact (List.append_eq_nil_iff.1 tokens.symm).1.symm
  | case2 start c rest blank ih =>
    cases count with
    | zero =>
      rw [eq_nil_of_stop_le (scan_blank blank rest ▸ tokens) stops, List.take_zero, scan_nil]
    | succ count =>
      rw [Nat.add_comm count, ← Nat.add_assoc] at stops starts
      rw [Nat.add_comm count, List.take_cons (by omega), scan_blank blank, Nat.add_sub_cancel_left]
      exact ih tokens stops starts
  | case3 start c rest solid kind length reading ih =>
    rw [Bool.not_eq_true] at solid
    cases before with
    | nil =>
      have first := starts _ (tokens ▸ List.mem_cons_self)
      have none : count = 0 := by
        dsimp only at first
        omega
      rw [none, List.take_zero, scan_nil]
    | cons token before =>
      obtain ⟨rfl, behind⟩ := List.cons.inj tokens
      obtain ⟨last, others⟩ := List.forall_mem_cons.1 stops
      dsimp only at last
      obtain ⟨room, rfl⟩ : ∃ room, count = length + room + 1 :=
        ⟨count - length - 1, by omega⟩
      have same : extent c (rest.take (length + room)) = (kind, length) := by
        rw [extent_take solid (by rw [reading]; exact Nat.le_add_right length room), reading]
      have place : start + (length + room + 1) = start + 1 + length + room := by omega
      rw [place] at others starts
      rw [List.take_succ_cons, scan_solid solid, same, List.take_take, List.drop_take,
        Nat.min_eq_left (Nat.le_add_right length room), Nat.add_sub_cancel_left,
        ih behind others starts]

theorem scan_drop (tokens : scan start text = before ++ after)
    (stops : ∀ token ∈ before, token.stop ≤ start + count)
    (starts : ∀ token ∈ after, start + count ≤ token.start) :
    scan (start + count) (text.drop count) = after := by
  fun_induction scan start text generalizing before count with
  | case1 =>
    rw [List.drop_nil, scan_nil]
    exact (List.append_eq_nil_iff.1 tokens.symm).2.symm
  | case2 start c rest blank ih =>
    rw [← scan_blank blank rest] at tokens
    cases count with
    | zero =>
      rw [eq_nil_of_stop_le tokens stops, List.nil_append] at tokens
      exact tokens
    | succ count =>
      rw [Nat.add_comm count, ← Nat.add_assoc] at stops starts ⊢
      rw [Nat.add_comm 1, List.drop_succ_cons]
      exact ih (scan_blank blank rest ▸ tokens) stops starts
  | case3 start c rest solid kind length reading ih =>
    rw [Bool.not_eq_true] at solid
    cases before with
    | nil =>
      have first := starts _ (tokens ▸ List.mem_cons_self)
      have none : count = 0 := by
        dsimp only at first
        omega
      rw [none, List.drop_zero, Nat.add_zero, scan_solid solid, reading]
      exact tokens
    | cons token before =>
      obtain ⟨rfl, behind⟩ := List.cons.inj tokens
      obtain ⟨last, others⟩ := List.forall_mem_cons.1 stops
      dsimp only at last
      obtain ⟨room, rfl⟩ : ∃ room, count = length + room + 1 :=
        ⟨count - length - 1, by omega⟩
      have place : start + (length + room + 1) = start + 1 + length + room := by omega
      rw [place] at others starts
      rw [place, List.drop_succ_cons, ← List.drop_drop, ih behind others starts]

/-- The tokens between two places that cut none of them. -/
theorem scan_slice {middle : List Token} {first last : Nat}
    (tokens : scan start text = before ++ middle ++ after)
    (stops : ∀ token ∈ before, token.stop ≤ start + first)
    (inside : ∀ token ∈ middle, start + first ≤ token.start ∧ token.stop ≤ start + last)
    (starts : ∀ token ∈ after, start + last ≤ token.start) (order : first ≤ last) :
    scan (start + first) ((text.take last).drop first) = middle := by
  refine scan_drop (scan_take tokens (List.forall_mem_append.2 ⟨?_, ?_⟩) starts) stops ?_
  · intro token member
    have early := stops token member
    omega
  · exact fun token member => (inside token member).2
  · exact fun token member => (inside token member).1

end Cutting

theorem tokenize_slice {text : String} {first last : Nat} {before middle after : List Token}
    (tokens : tokenize text = before ++ middle ++ after)
    (stops : ∀ token ∈ before, token.stop ≤ first)
    (inside : ∀ token ∈ middle, first ≤ token.start ∧ token.stop ≤ last)
    (starts : ∀ token ∈ after, last ≤ token.start) (order : first ≤ last) :
    (tokenize (slice text first last)).map (Token.moved first) = middle := by
  have between : scan (0 + first) ((text.toList.take last).drop first) = middle := by
    refine scan_slice tokens ?_ ?_ ?_ order
    · rwa [Nat.zero_add]
    · rwa [Nat.zero_add, Nat.zero_add]
    · rwa [Nat.zero_add]
  rw [scan_moved] at between
  rwa [tokenize, slice, String.toList_ofList]

section Ends
variable {text : List Char}

theorem scan_solid_end (start : Nat) (present : text ≠ []) (solid : EndsSolid text) :
    ∃ last, (scan start text).getLast? = some last ∧ last.stop = start + text.length := by
  fun_induction scan start text with
  | case1 => exact absurd rfl present
  | case2 start c rest blank ih =>
    have more : rest ≠ [] := by
      rintro rfl
      rw [solid c rfl] at blank
      cases blank
    obtain ⟨last, found, stop⟩ := ih more (solid.of_suffix (List.suffix_cons c rest))
    refine ⟨last, found, ?_⟩
    rw [stop, List.length_cons, Nat.add_assoc, Nat.add_comm 1]
  | case3 start c rest dark kind count reading ih =>
    rw [Bool.not_eq_true] at dark
    have within := (extent_closes rest dark).1
    rw [reading] at within
    by_cases more : rest.drop count = []
    · have all := List.drop_eq_nil_iff.1 more
      rw [more, scan_nil, List.getLast?_singleton]
      refine ⟨_, rfl, ?_⟩
      dsimp only
      rw [List.length_cons]
      omega
    · have suffix := (List.drop_suffix count rest).trans (List.suffix_cons c rest)
      obtain ⟨last, found, stop⟩ := ih more (solid.of_suffix suffix)
      refine ⟨last, by rw [List.getLast?_cons, found]; rfl, ?_⟩
      rw [stop, List.length_drop, List.length_cons]
      omega

theorem scan_trimmed {text : String} (present : text ≠ "") (trimmed : IsTrimmed text)
    (start : Nat) : ∃ first rest, scan start text.toList = first :: rest ∧ first.start = start ∧
      (rest.getLastD first).stop = start + text.length := by
  have solid : text.toList ≠ [] := fun none => present (String.toList_eq_nil_iff.1 none)
  obtain ⟨c, more, whole⟩ := List.exists_cons_of_ne_nil solid
  have tokens : scan start (c :: more) = _ :=
    scan_solid (trimmed.startsSolid c (by rw [whole]; rfl)) more
  obtain ⟨last, found, stop⟩ := scan_solid_end start solid trimmed.endsSolid
  rw [whole] at found ⊢
  refine ⟨_, _, tokens, rfl, ?_⟩
  rw [tokens, List.getLast?_cons, ← List.getLastD_eq_getLast?, Option.some.injEq] at found
  rw [found, stop, String.length_toList]

end Ends

theorem slice_whole (text : String) : slice text 0 text.length = text := by
  rw [slice, List.drop_zero, ← String.length_toList, List.take_length, String.ofList_toList]

theorem slice_append (text : String) {first middle last : Nat} (below : first ≤ middle)
    (above : middle ≤ last) :
    slice text first middle ++ slice text middle last = slice text first last := by
  have inner : text.toList.take middle = (text.toList.take last).take middle := by
    rw [List.take_take, Nat.min_eq_left above]
  have outer : (text.toList.take last).drop middle =
      ((text.toList.take last).drop first).drop (middle - first) := by
    rw [List.drop_drop, Nat.add_sub_of_le below]
  rw [slice, slice, slice, ← String.ofList_append, inner, outer, List.drop_take,
    List.take_append_drop]

theorem slice_middle (front middle behind : String) :
    slice (front ++ middle ++ behind) front.length (front.length + middle.length) = middle := by
  rw [slice, String.toList_append, ← String.length_append, ← String.length_toList (s := front ++ _),
    List.take_left, String.toList_append, ← String.length_toList, List.drop_left,
    String.ofList_toList]

section Segments
variable {text : String} {first : Token} {rest : List Token}

theorem bounds_of_pairwise
    (order : (first :: rest).Pairwise fun token later => token.stop ≤ later.start)
    (long : ∀ token ∈ first :: rest, token.start < token.stop) :
    ∀ token ∈ first :: rest,
      first.start ≤ token.start ∧ token.stop ≤ (rest.getLastD first).stop := by
  induction rest generalizing first with
  | nil => exact List.forall_mem_singleton.2 ⟨Nat.le_refl _, Nat.le_refl _⟩
  | cons next others ih =>
    obtain ⟨earlier, order⟩ := List.pairwise_cons.1 order
    obtain ⟨own, long⟩ := List.forall_mem_cons.1 long
    have within := ih order long
    rw [List.getLastD_cons]
    refine List.forall_mem_cons.2 ⟨⟨Nat.le_refl _, ?_⟩, fun token member => ⟨?_, ?_⟩⟩
    · have behind := earlier next List.mem_cons_self
      have positive := long next List.mem_cons_self
      have bound := (within next List.mem_cons_self).2
      omega
    · have behind := earlier token member
      omega
    · exact (within token member).2

theorem tokenize_segmentText (segment : first :: rest <:+: tokenize text) :
    (tokenize (segmentText text first rest)).map (Token.moved first.start) = first :: rest := by
  have part := segment.subset
  obtain ⟨before, after, split⟩ := segment
  have order := pairwise_scan 0 text.toList
  rw [← tokenize, ← split, List.pairwise_append, List.pairwise_append] at order
  obtain ⟨⟨-, inner, earlier⟩, -, later⟩ := order
  have bounds := bounds_of_pairwise inner fun token member => start_lt_stop (part member)
  have last : rest.getLastD first ∈ first :: rest := List.getLastD_mem_cons
  refine tokenize_slice split.symm ?_ bounds ?_ ?_
  · exact fun token member => earlier token member first List.mem_cons_self
  · exact fun token member => later _ (List.mem_append_right _ last) token member
  · have positive := start_lt_stop (part last)
    have bound := (bounds _ last).1
    omega

theorem shapes_segmentText (segment : first :: rest <:+: tokenize text) :
    (tokenize (segmentText text first rest)).map Token.shape =
      (first :: rest).map Token.shape := by
  rw [← shapes_moved first.start, tokenize_segmentText segment]

end Segments

section Gaps
variable {text : String} {before after : List Token}

/-- Where the last of some tokens ends; the start of the text if there is none. -/
def reach (tokens : List Token) : Nat := (tokens.getLast?.map Token.stop).getD 0

def onset (text : String) (tokens : List Token) : Nat :=
  (tokens.head?.map Token.start).getD text.length

theorem isBlank_of_tokenless {start : Nat} {text : List Char} (tokenless : scan start text = []) :
    ∀ c ∈ text, isBlank c = true := by
  fun_induction scan start text with
  | case1 => exact List.forall_mem_nil _
  | case2 start c rest blank ih => exact List.forall_mem_cons.2 ⟨blank, ih tokenless⟩
  | case3 => cases tokenless

theorem reach_cons (first : Token) (rest : List Token) :
    reach (first :: rest) = (rest.getLastD first).stop := by
  rw [reach, List.getLast?_cons, List.getLastD_eq_getLast?]
  rfl

theorem isBlank_between (tokens : tokenize text = before ++ after) :
    ∀ c ∈ (slice text (reach before) (onset text after)).toList, isBlank c = true := by
  have order := pairwise_scan 0 text.toList
  rw [← tokenize, tokens, List.pairwise_append] at order
  obtain ⟨inner, outer, across⟩ := order
  have long : ∀ token ∈ before ++ after, token.start < token.stop :=
    fun token member => start_lt_stop (tokens ▸ member)
  obtain ⟨earlier, later⟩ := List.forall_mem_append.1 long
  have stops : ∀ token ∈ before, token.stop ≤ reach before := by
    cases before with
    | nil => exact List.forall_mem_nil _
    | cons first rest =>
      rw [reach_cons]
      exact fun token member => (bounds_of_pairwise inner earlier token member).2
  have starts : ∀ token ∈ after, onset text after ≤ token.start := by
    cases after with
    | nil => exact List.forall_mem_nil _
    | cons first rest => exact fun token member => (bounds_of_pairwise outer later token member).1
  have apart : reach before ≤ onset text after := by
    cases before with
    | nil => exact Nat.zero_le _
    | cons first rest =>
      have last : rest.getLastD first ∈ first :: rest := List.getLastD_mem_cons
      rw [reach_cons]
      cases after with
      | nil =>
        have member : rest.getLastD first ∈ tokenize text := by
          rw [tokens, List.append_nil]
          exact last
        exact (text_eq_slice member).1
      | cons next others => exact across _ last next List.mem_cons_self
  -- No token stands between the two places, so the text there is made of blanks.
  have split : tokenize text = before ++ [] ++ after := by rw [List.append_nil, tokens]
  have cut := tokenize_slice split stops (List.forall_mem_nil _) starts apart
  exact isBlank_of_tokenless (List.map_eq_nil_iff.1 cut)

theorem isBlank_before {first : Token} {rest : List Token}
    (tokens : tokenize text = first :: rest) :
    ∀ c ∈ (slice text 0 first.start).toList, isBlank c = true :=
  @isBlank_between text [] (first :: rest) tokens

end Gaps

end RecordProjection.Directive
