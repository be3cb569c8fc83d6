import RecordProjection.Directive.Override
import RecordProjection.Proofs.Text.Name

/-! Tokens where they stand. The text of a token is found at its offset and neither starts nor ends
with a blank, and every token stands behind the ones before it; so the text between two tokens of a
directive is a part of the annotation without blanks at its ends. -/

namespace RecordProjection.Directive
open Text

structure Token.Stands (token : Token) (start : Nat) (text : List Char) : Prop where
  found : ∃ before after, text = before ++ token.text.toList ++ after ∧
    token.start = start + before.length
  measured : token.stop = token.start + token.text.toList.length
  present : token.text.toList ≠ []
  opens : StartsSolid token.text.toList
  closes : EndsSolid token.text.toList

theorem Token.Stands.behind {token : Token} {start : Nat} {text : List Char}
    (stands : token.Stands start text) : start ≤ token.start := by
  obtain ⟨before, after, -, place⟩ := stands.found
  omega

theorem stringExtent_closes {rest : List Char} {count : Nat}
    (read : stringExtent rest = some count) :
    0 < count ∧ count ≤ rest.length ∧ (rest.take count).getLast? = some doubleQuote := by
  fun_induction stringExtent rest generalizing count with
  | case1 => cases read
  | case2 more =>
    cases read
    simp
  | case3 more => cases read
  | case4 d more quote ih =>
    obtain ⟨inner, found, rfl⟩ := Option.map_eq_some_iff.1 read
    obtain ⟨positive, within, last⟩ := ih found
    refine ⟨by omega, by simpa using within, ?_⟩
    simp [List.getLast?_cons, last]
  | case5 c more quote slash ih =>
    obtain ⟨inner, found, rfl⟩ := Option.map_eq_some_iff.1 read
    obtain ⟨positive, within, last⟩ := ih found
    refine ⟨by omega, by simpa using within, ?_⟩
    simp [List.getLast?_cons, last]

theorem getLast?_takeWhile {keep : Char → Bool} {c d : Char} {rest : List Char}
    (last : (c :: rest.takeWhile keep).getLast? = some d) : d = c ∨ keep d = true := by
  rcases List.mem_cons.1 (List.mem_of_getLast? last) with first | later
  · exact .inl first
  · exact .inr (List.mem_takeWhile_imp later)

theorem take_length_takeWhile (keep : Char → Bool) (text : List Char) :
    text.take (text.takeWhile keep).length = text.takeWhile keep :=
  (List.prefix_iff_eq_take.1 (List.takeWhile_prefix keep)).symm

inductive Reads (c : Char) (rest : List Char) : TokenKind → Nat → Prop
  | string {count : Nat} (quote : c = doubleQuote) (closed : stringExtent rest = some count) :
      Reads c rest .string count
  | lifetime {d : Char} {more : List Char} (mark : c = apostrophe) (split : rest = d :: more)
      (start : isIdentStart d = true) :
      Reads c rest .ident ((more.takeWhile isIdentChar).length + 1)
  | word (start : isIdentStart c = true) : Reads c rest .ident (rest.takeWhile isIdentChar).length
  /-- A quote stands alone only if nothing closes it. -/
  | single {kind : TokenKind} (other : kind ≠ .string ∧ kind ≠ .ident)
      (unclosed : c = doubleQuote → kind = .punct ∧ stringExtent rest = none) : Reads c rest kind 0

theorem reads_of_extent {c : Char} {rest : List Char} {kind : TokenKind} {count : Nat}
    (reading : extent c rest = (kind, count)) : Reads c rest kind count := by
  suffices Reads c rest (extent c rest).1 (extent c rest).2 by rwa [reading] at this
  clear reading
  unfold extent
  by_cases quote : c = doubleQuote
  · rw [if_pos quote]
    cases read : stringExtent rest with
    | none => exact .single (by decide) fun _ => ⟨rfl, read⟩
    | some count => exact .string quote read
  · rw [if_neg quote]
    by_cases mark : c = apostrophe
    · rw [if_pos mark]
      cases rest with
      | nil => exact .single (by decide) fun same => absurd same quote
      | cons d more =>
        rw [lifetimeExtent]
        by_cases start : isIdentStart d = true
        · rw [if_pos start]
          exact .lifetime mark rfl start
        · rw [if_neg start]
          exact .single (by decide) fun same => absurd same quote
    · rw [if_neg mark]
      by_cases start : isIdentStart c = true
      · rw [if_pos start]
        exact .word start
      · rw [if_neg start]
        repeat' split
        all_goals exact .single (by decide) fun same => absurd same quote

theorem extent_closes {c : Char} (rest : List Char) (solid : isBlank c = false) :
    (extent c rest).2 ≤ rest.length ∧ EndsSolid (c :: rest.take (extent c rest).2) := by
  have word : ∀ {d : Char} (more : List Char), isBlank d = false →
      EndsSolid (d :: more.take (more.takeWhile isIdentChar).length) := by
    intro d more dark e last
    rw [take_length_takeWhile] at last
    rcases getLast?_takeWhile last with rfl | ident
    · exact dark
    · exact isBlank_of_isIdentChar ident
  have within : ∀ more : List Char, (more.takeWhile isIdentChar).length ≤ more.length :=
    fun more => (List.takeWhile_prefix isIdentChar).length_le
  rcases reading : extent c rest with ⟨kind, count⟩
  cases reads_of_extent reading with
  | string quote closed =>
    obtain ⟨positive, room, last⟩ := stringExtent_closes closed
    refine ⟨room, fun d final => ?_⟩
    rw [List.getLast?_cons, last, Option.getD_some, Option.some.injEq] at final
    exact final ▸ (by decide)
  | lifetime mark split start =>
    subst split
    refine ⟨Nat.succ_le_succ (within _), fun e final => ?_⟩
    rw [List.take_succ_cons, List.getLast?_cons_cons] at final
    exact word _ (isBlank_of_isIdentChar (isIdentChar_of_isIdentStart start)) e final
  | word start => exact ⟨within rest, word rest solid⟩
  | single other unclosed =>
    refine ⟨Nat.zero_le _, fun d last => ?_⟩
    rw [List.take_zero, List.getLast?_singleton, Option.some.injEq] at last
    exact last ▸ solid

def tokenAt (start : Nat) (c : Char) (rest : List Char) : Token where
  kind := (extent c rest).1
  text := .ofList (c :: rest.take (extent c rest).2)
  start := start
  stop := start + 1 + (extent c rest).2

def Token.IsRead (token : Token) (start : Nat) (text : List Char) : Prop :=
  ∃ before c rest, text = before ++ c :: rest ∧ isBlank c = false ∧
    token = tokenAt (start + before.length) c rest

theorem Token.IsRead.append {token : Token} {start : Nat} {text : List Char} (front : List Char)
    (read : token.IsRead (start + front.length) text) : token.IsRead start (front ++ text) := by
  obtain ⟨before, c, rest, split, solid, same⟩ := read
  refine ⟨front ++ before, c, rest, by rw [split, List.append_assoc], solid, ?_⟩
  rw [same, List.length_append, Nat.add_assoc]

theorem read_of_mem_scan {text : List Char} {start : Nat} {token : Token}
    (member : token ∈ scan start text) : token.IsRead start text := by
  fun_induction scan start text with
  | case1 => cases member
  | case2 start c rest blank ih => exact (ih member).append [c]
  | case3 start c rest solid kind count reading ih =>
    rw [Bool.not_eq_true] at solid
    rcases List.mem_cons.1 member with rfl | later
    · refine ⟨[], c, rest, rfl, solid, ?_⟩
      rw [tokenAt, reading]
      rfl
    · -- The tokens behind this one are those of the rest, moved by its length.
      have within := (extent_closes rest solid).1
      rw [reading] at within
      have behind : (c :: rest.take count).length = 1 + count := by
        rw [List.length_cons, List.length_take, Nat.min_eq_left within, Nat.add_comm]
      have read := ih later
      rw [Nat.add_assoc, ← behind] at read
      have whole := read.append (c :: rest.take count)
      rwa [List.cons_append, List.take_append_drop] at whole

theorem stands_of_mem_scan {text : List Char} {start : Nat} {token : Token}
    (member : token ∈ scan start text) : token.Stands start text := by
  obtain ⟨before, c, rest, split, solid, same⟩ := read_of_mem_scan member
  obtain ⟨within, closes⟩ := extent_closes rest solid
  have written : token.text.toList = c :: rest.take (extent c rest).2 := by
    rw [same, tokenAt, String.toList_ofList]
  refine ⟨⟨before, rest.drop (extent c rest).2, ?_, by rw [same, tokenAt]⟩, ?_, ?_, ?_, ?_⟩
  · rw [written, split, List.append_assoc, List.cons_append, List.take_append_drop]
  · rw [written, same, tokenAt, List.length_cons, List.length_take, Nat.min_eq_left within]
    exact Nat.add_right_comm _ _ _
  · rw [written]
    exact List.cons_ne_nil _ _
  · rw [written]
    rintro d ⟨⟩
    exact solid
  · rwa [written]

theorem text_eq_slice {text : String} {token : Token} (member : token ∈ tokenize text) :
    token.stop ≤ text.length ∧ token.text = slice text token.start token.stop := by
  have stands := stands_of_mem_scan member
  obtain ⟨before, after, split, place⟩ := stands.found
  rw [Nat.zero_add] at place
  have reached : (before ++ token.text.toList).length = token.stop := by
    rw [stands.measured, place, List.length_append]
  constructor
  · rw [← reached, ← String.length_toList, split]
    exact (List.prefix_append _ after).length_le
  · rw [slice, split, List.take_left' reached, place, List.drop_left, String.ofList_toList]

theorem pairwise_scan (start : Nat) (text : List Char) :
    (scan start text).Pairwise fun first second => first.stop ≤ second.start := by
  fun_induction scan start text with
  | case1 => exact .nil
  | case2 start c rest blank ih => exact ih
  | case3 start c rest solid kind count reading ih =>
    exact .cons (fun token later => (stands_of_mem_scan later).behind) ih

end RecordProjection.Directive
