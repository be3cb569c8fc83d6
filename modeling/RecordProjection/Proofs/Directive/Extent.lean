import RecordProjection.Proofs.Directive.Spans

/-! How far a token reaches. A token is read alike before any text that it cannot go on into, and it
is the same if what follows it is cut off. -/

namespace RecordProjection.Directive
open Text

section Extents
variable {c : Char} {first second : List Char} {count : Nat}

theorem stringExtent_quote (rest : List Char) : stringExtent (doubleQuote :: rest) = some 1 := by
  rw [stringExtent.eq_def]
  rfl

theorem stringExtent_escaped (d : Char) (rest : List Char) :
    stringExtent (backslash :: d :: rest) = (stringExtent rest).map (· + 2) := by
  rw [stringExtent.eq_def]
  rfl

theorem stringExtent_ordinary (quote : c ≠ doubleQuote) (slash : c ≠ backslash)
    (rest : List Char) : stringExtent (c :: rest) = (stringExtent rest).map (· + 1) := by
  rw [stringExtent.eq_def]
  simp only [quote, slash, ↓reduceIte]

theorem stringExtent_append (second : List Char) (read : stringExtent first = some count) :
    stringExtent (first ++ second) = some count := by
  fun_induction stringExtent first generalizing count with
  | case1 => cases read
  | case2 more =>
    rw [List.cons_append, stringExtent_quote]
    exact read
  | case3 => cases read
  | case4 d more quote ih =>
    obtain ⟨inner, found, rfl⟩ := Option.map_eq_some_iff.1 read
    rw [List.cons_append, List.cons_append, stringExtent_escaped, ih found]
    rfl
  | case5 c more quote slash ih =>
    obtain ⟨inner, found, rfl⟩ := Option.map_eq_some_iff.1 read
    rw [List.cons_append, stringExtent_ordinary quote slash, ih found]
    rfl

theorem stringExtent_eq_none (unquoted : doubleQuote ∉ first) : stringExtent first = none := by
  fun_induction stringExtent first with
  | case1 => rfl
  | case2 more => exact absurd List.mem_cons_self unquoted
  | case3 => rfl
  | case4 d more quote ih =>
    rw [ih fun later => unquoted (List.mem_cons_of_mem _ (List.mem_cons_of_mem _ later))]
    rfl
  | case5 c more quote slash ih =>
    rw [ih fun later => unquoted (List.mem_cons_of_mem _ later)]
    rfl

theorem stringExtent_append_eq_none (unclosed : stringExtent first = none)
    (unquoted : doubleQuote ∉ second) : stringExtent (first ++ second) = none := by
  fun_induction stringExtent first with
  | case1 => exact stringExtent_eq_none unquoted
  | case2 more => cases unclosed
  | case3 =>
    cases second with
    | nil => rfl
    | cons d more =>
      rw [List.singleton_append, stringExtent_escaped,
        stringExtent_eq_none fun later => unquoted (List.mem_cons_of_mem d later)]
      rfl
  | case4 d more quote ih =>
    rw [List.cons_append, List.cons_append, stringExtent_escaped,
      ih (Option.map_eq_none_iff.1 unclosed)]
    rfl
  | case5 c more quote slash ih =>
    rw [List.cons_append, stringExtent_ordinary quote slash, ih (Option.map_eq_none_iff.1 unclosed)]
    rfl

theorem stringExtent_of_append (read : stringExtent (first ++ second) = some count)
    (within : count ≤ first.length) : stringExtent first = some count := by
  fun_induction stringExtent first generalizing count with
  | case1 =>
    have positive := (stringExtent_closes read).1
    rw [List.length_nil] at within
    omega
  | case2 more =>
    rw [List.cons_append, stringExtent_quote] at read
    exact read
  | case3 =>
    cases second with
    | nil => cases read
    | cons d more =>
      rw [List.singleton_append, stringExtent_escaped] at read
      obtain ⟨inner, -, rfl⟩ := Option.map_eq_some_iff.1 read
      rw [List.length_singleton] at within
      omega
  | case4 d more quote ih =>
    rw [List.cons_append, List.cons_append, stringExtent_escaped] at read
    obtain ⟨inner, found, rfl⟩ := Option.map_eq_some_iff.1 read
    rw [List.length_cons, List.length_cons] at within
    rw [ih found (by omega)]
    rfl
  | case5 c more quote slash ih =>
    rw [List.cons_append, stringExtent_ordinary quote slash] at read
    obtain ⟨inner, found, rfl⟩ := Option.map_eq_some_iff.1 read
    rw [List.length_cons] at within
    rw [ih found (by omega)]
    rfl

/-- What a string is made of: a character as it is, or any character behind a backslash. -/
inductive StringUnit
  | plain (c : Char) (ordinary : c ≠ doubleQuote ∧ c ≠ backslash)
  | escaped (c : Char)

def StringUnit.written : StringUnit → List Char
  | plain c _ => [c]
  | escaped c => [backslash, c]

theorem stringExtent_units (units : List StringUnit) (more : List Char) :
    stringExtent (units.flatMap StringUnit.written ++ doubleQuote :: more) =
      some ((units.flatMap StringUnit.written).length + 1) := by
  induction units with
  | nil => exact stringExtent_quote more
  | cons unit units ih =>
    cases unit with
    | plain c ordinary =>
      rw [List.flatMap_cons, StringUnit.written, List.singleton_append, List.cons_append,
        stringExtent_ordinary ordinary.1 ordinary.2, ih]
      rfl
    | escaped c =>
      rw [List.flatMap_cons, StringUnit.written, List.cons_append, List.singleton_append,
        List.cons_append, List.cons_append, stringExtent_escaped, ih]
      rfl

/-- A string ends at the first quote that is no part of a unit. -/
theorem stringExtent_eq_some_iff :
    stringExtent first = some count ↔ ∃ (units : List StringUnit) (more : List Char),
      first = units.flatMap StringUnit.written ++ doubleQuote :: more ∧
        count = (units.flatMap StringUnit.written).length + 1 := by
  constructor
  · intro read
    fun_induction stringExtent first generalizing count with
    | case1 => cases read
    | case2 more =>
      cases read
      exact ⟨[], more, rfl, rfl⟩
    | case3 => cases read
    | case4 d more quote ih =>
      obtain ⟨inner, found, rfl⟩ := Option.map_eq_some_iff.1 read
      obtain ⟨units, behind, rfl, rfl⟩ := ih found
      exact ⟨.escaped d :: units, behind, rfl, rfl⟩
    | case5 c more quote slash ih =>
      obtain ⟨inner, found, rfl⟩ := Option.map_eq_some_iff.1 read
      obtain ⟨units, behind, rfl, rfl⟩ := ih found
      exact ⟨.plain c ⟨quote, slash⟩ :: units, behind, rfl, rfl⟩
  · rintro ⟨units, more, rfl, rfl⟩
    exact stringExtent_units units more

def StartsFresh (text : List Char) : Prop := ∀ c, text.head? = some c → isIdentChar c = false

/-- Whether no name goes on from one text into the other. A lone apostrophe waits for a name. -/
def WordEnds (first second : List Char) : Prop :=
  ∀ c, first.getLast? = some c → isIdentChar c = true ∨ c = apostrophe → StartsFresh second

theorem takeWhile_eq_nil (fresh : StartsFresh first) : first.takeWhile isIdentChar = [] := by
  cases first with
  | nil => rfl
  | cons d more => rw [List.takeWhile_cons, fresh d rfl]; rfl

theorem takeWhile_append_word (ident : isIdentChar c = true) (ends : WordEnds (c :: first) second) :
    (first ++ second).takeWhile isIdentChar = first.takeWhile isIdentChar := by
  rw [List.takeWhile_append]
  split
  · rename_i whole
    have same := (List.takeWhile_prefix isIdentChar).eq_of_length whole
    -- All of the first text belongs to the name, so the second one has to be fresh.
    have all : ∀ d ∈ c :: first, isIdentChar d = true := by
      rw [← same]
      exact List.forall_mem_cons.2 ⟨ident, fun d member => List.mem_takeWhile_imp member⟩
    have last := List.getLast?_eq_some_getLast (List.cons_ne_nil c first)
    rw [takeWhile_eq_nil (ends _ last (.inl (all _ (List.getLast_mem _)))), List.append_nil, same]
  · rfl

theorem lifetimeExtent_append (ends : WordEnds (apostrophe :: first) second) :
    lifetimeExtent (first ++ second) = lifetimeExtent first := by
  cases first with
  | nil =>
    have fresh : StartsFresh second := ends apostrophe rfl (.inr rfl)
    cases second with
    | nil => rfl
    | cons d more =>
      have outside : ¬ isIdentStart d = true := fun start => by
        have inside := isIdentChar_of_isIdentStart start
        rw [fresh d rfl] at inside
        cases inside
      exact if_neg outside
  | cons d more =>
    rw [List.cons_append, lifetimeExtent, lifetimeExtent]
    by_cases start : isIdentStart d = true
    · rw [if_pos start, if_pos start,
        takeWhile_append_word (isIdentChar_of_isIdentStart start) ends]
    · rw [if_neg start, if_neg start]

/-- A token is read alike before any text that it cannot go on into. -/
theorem extent_append (ends : WordEnds (c :: first) second)
    (quotes : c = doubleQuote → stringExtent first = none → doubleQuote ∉ second) :
    extent c (first ++ second) = extent c first := by
  unfold extent
  by_cases quote : c = doubleQuote
  · rw [if_pos quote, if_pos quote]
    cases read : stringExtent first with
    | none => rw [stringExtent_append_eq_none read (quotes quote read)]
    | some count => rw [stringExtent_append second read]
  · rw [if_neg quote, if_neg quote]
    by_cases mark : c = apostrophe
    · rw [if_pos mark, if_pos mark, lifetimeExtent_append (mark ▸ ends)]
    · rw [if_neg mark, if_neg mark]
      by_cases start : isIdentStart c = true
      · rw [if_pos start, if_pos start,
          takeWhile_append_word (isIdentChar_of_isIdentStart start) ends]
      · rw [if_neg start, if_neg start]

theorem takeWhile_of_append
    (within : ((first ++ second).takeWhile isIdentChar).length ≤ first.length) :
    first.takeWhile isIdentChar = (first ++ second).takeWhile isIdentChar := by
  rw [List.takeWhile_append] at within ⊢
  split at within
  · rename_i whole
    rw [if_pos whole]
    rw [List.length_append] at within
    have nothing : second.takeWhile isIdentChar = [] := by
      rw [← List.length_eq_zero_iff]
      omega
    rw [nothing, List.append_nil]
    exact (List.takeWhile_prefix isIdentChar).eq_of_length whole
  · rename_i part
    rw [if_neg part]

theorem lifetimeExtent_of_append
    (within : ∀ count, lifetimeExtent (first ++ second) = some count → count ≤ first.length) :
    lifetimeExtent first = lifetimeExtent (first ++ second) := by
  cases first with
  | nil =>
    cases second with
    | nil => rfl
    | cons d more =>
      by_cases start : isIdentStart d = true
      · exact absurd (within _ (if_pos start)) (Nat.not_succ_le_zero _)
      · exact (if_neg start).symm
  | cons d more =>
    rw [List.cons_append, lifetimeExtent, lifetimeExtent]
    by_cases start : isIdentStart d = true
    · have room := within _ (if_pos start)
      rw [if_pos start, if_pos start, takeWhile_of_append (Nat.le_of_succ_le_succ room)]
    · rw [if_neg start, if_neg start]

theorem extent_of_append (within : (extent c (first ++ second)).2 ≤ first.length) :
    extent c first = extent c (first ++ second) := by
  unfold extent at within ⊢
  by_cases quote : c = doubleQuote
  · rw [if_pos quote] at within ⊢
    rw [if_pos quote]
    cases read : stringExtent (first ++ second) with
    | none =>
      cases alone : stringExtent first with
      | none => rfl
      | some count => cases read.symm.trans (stringExtent_append second alone)
    | some count =>
      rw [read] at within
      rw [stringExtent_of_append read within]
  · rw [if_neg quote] at within ⊢
    rw [if_neg quote]
    by_cases mark : c = apostrophe
    · rw [if_pos mark] at within ⊢
      rw [if_pos mark, lifetimeExtent_of_append]
      intro count read
      rwa [read] at within
    · rw [if_neg mark] at within ⊢
      rw [if_neg mark]
      by_cases start : isIdentStart c = true
      · rw [if_pos start] at within ⊢
        rw [if_pos start, takeWhile_of_append within]
      · rw [if_neg start, if_neg start]

theorem extent_take {rest : List Char} (solid : isBlank c = false)
    (within : (extent c rest).2 ≤ count) : extent c (rest.take count) = extent c rest := by
  have room : (extent c (rest.take count ++ rest.drop count)).2 ≤ (rest.take count).length := by
    rw [List.take_append_drop, List.length_take]
    exact Nat.le_min.2 ⟨within, (extent_closes rest solid).1⟩
  rw [extent_of_append room, List.take_append_drop]

end Extents

end RecordProjection.Directive
