import RecordProjection.Proofs.Text.Blank
import RecordProjection.Text.Display

/-! Lines, columns and words. Lines that are closed by line feeds are told apart. A column that is
as wide as the widest of its texts has room for each of them. The words of a line are told apart by
the blanks between them, however many these are. -/

namespace RecordProjection.Text

section Lines
variable {c : Char} {line front : List Char}

theorem isBlank_of_isLineEnd (ends : isLineEnd c = true) : isBlank c = true := by
  simp only [isBlank, isLineEnd, blanks, lineEnds, Ranges.contains_iff, List.mem_cons,
    List.not_mem_nil, exists_eq_or_imp, or_false, exists_eq_left] at ends ⊢
  omega

theorem isLineEnd_of_solid (solid : isBlank c = false) : isLineEnd c = false :=
  Bool.eq_false_iff.2 fun ends => Bool.eq_false_iff.1 solid (isBlank_of_isLineEnd ends)

theorem ne_nil_of_endsSolid (solid : EndsSolid (c :: line)) (blank : isBlank c = true) :
    line ≠ [] := by
  rintro rfl
  rw [solid c rfl] at blank
  cases blank

theorem linesOf_cons (inside : isLineEnd c = false) (text : List Char) :
    linesOf (c :: text) = extendLine c (linesOf text) := by
  rw [linesOf, inside]
  · rfl
  · rintro tail rfl
    cases inside

theorem linesOf_ne_nil {text : List Char} (present : text ≠ []) : linesOf text ≠ [] := by
  fun_cases linesOf text with
  | case1 => exact absurd rfl present
  | case2 => exact List.cons_ne_nil _ _
  | case3 => exact List.cons_ne_nil _ _
  | case4 =>
    unfold extendLine
    split <;> exact List.cons_ne_nil _ _

theorem linesOf_append_feed (present : front ≠ []) (solid : EndsSolid front) (rest : List Char) :
    linesOf (front ++ '\n' :: rest) = linesOf front ++ linesOf rest := by
  fun_induction linesOf front with
  | case1 => exact absurd rfl present
  | case2 tail ih =>
    have inner := solid.of_suffix (List.suffix_cons '\r' _)
    have more := ne_nil_of_endsSolid inner (by decide)
    rw [List.cons_append, List.cons_append, linesOf,
      ih more (inner.of_suffix (List.suffix_cons _ _)), List.cons_append]
  | case3 c tail apart ends ih =>
    have more := ne_nil_of_endsSolid solid (isBlank_of_isLineEnd ends)
    rw [List.cons_append, linesOf, if_pos ends, ih more (solid.of_suffix (List.suffix_cons _ _)),
      List.cons_append]
    intro other carriage same
    obtain ⟨d, others, rfl⟩ := List.exists_cons_of_ne_nil more
    exact apart others carriage (by rw [(List.cons.inj same).1])
  | case4 c tail _ inside ih =>
    rw [List.cons_append, linesOf_cons (Bool.eq_false_iff.2 inside)]
    cases tail with
    | nil => rfl
    | cons d others =>
      have inner := solid.of_suffix (List.suffix_cons c _)
      have lines := linesOf_ne_nil (List.cons_ne_nil d others)
      rw [ih (List.cons_ne_nil d others) inner]
      obtain ⟨first, further, found⟩ := List.exists_cons_of_ne_nil lines
      rw [found]
      rfl

/-- A text with a last character that is not blank, in which no line ends. -/
structure IsLine (line : List Char) : Prop where
  present : line ≠ []
  solid : EndsSolid line
  plain : ∀ c ∈ line, isLineEnd c = false

theorem linesOf_plain (present : line ≠ []) (plain : ∀ c ∈ line, isLineEnd c = false) :
    linesOf line = [line] := by
  induction line with
  | nil => exact absurd rfl present
  | cons c rest ih =>
    obtain ⟨own, others⟩ := List.forall_mem_cons.1 plain
    rw [linesOf_cons own]
    cases rest with
    | nil => rfl
    | cons d more => rw [ih (List.cons_ne_nil d more) others, extendLine]

theorem linesOf_closed {rows : List (List Char)} (each : ∀ row ∈ rows, IsLine row) :
    linesOf (rows.flatMap fun row => row ++ ['\n']) = rows := by
  induction rows with
  | nil => rfl
  | cons row rest ih =>
    obtain ⟨isLine, others⟩ := List.forall_mem_cons.1 each
    rw [List.flatMap_cons, List.append_assoc, List.singleton_append,
      linesOf_append_feed isLine.present isLine.solid, linesOf_plain isLine.present isLine.plain,
      ih others]
    rfl

end Lines

section Padding
variable {text : String}

theorem toList_padEnd (text : String) (width : Nat) :
    (padEnd text width).toList = text.toList ++ (spaces (width - text.length)).toList := by
  rw [padEnd, String.toList_append]

theorem isBlank_of_mem_spaces {count : Nat} {c : Char} (member : c ∈ (spaces count).toList) :
    isBlank c = true := by
  rw [spaces, String.toList_ofList] at member
  rw [List.eq_of_mem_replicate member]
  decide

theorem isBlank_of_mem_space : ∀ c ∈ [' '], isBlank c = true :=
  fun c => @isBlank_of_mem_spaces 1 c

theorem isBlank_of_mem_indent : ∀ c ∈ [' ', ' '], isBlank c = true :=
  fun c => @isBlank_of_mem_spaces 2 c

theorem le_foldl_max (texts : List String) (start : Nat) :
    start ≤ texts.foldl (fun width text => max width text.length) start ∧ ∀ text ∈ texts,
      text.length ≤ texts.foldl (fun width text => max width text.length) start := by
  induction texts generalizing start with
  | nil => exact ⟨Nat.le_refl start, List.forall_mem_nil _⟩
  | cons first rest ih =>
    obtain ⟨base, others⟩ := ih (max start first.length)
    rw [List.foldl_cons]
    exact ⟨by omega, List.forall_mem_cons.2 ⟨by omega, others⟩⟩

theorem length_le_widest {texts : List String} (member : text ∈ texts) :
    text.length ≤ widest texts :=
  (le_foldl_max texts 0).2 text member

end Padding

section Words

structure IsWord (text : List Char) : Prop where
  present : text ≠ []
  solid : ∀ c ∈ text, isBlank c = false

instance (text : List Char) : Decidable (IsWord text) :=
  decidable_of_iff (text ≠ [] ∧ text.all fun c => !isBlank c) <| by
    rw [List.all_eq_true]
    simp only [Bool.not_eq_true']
    exact ⟨fun both => ⟨both.1, both.2⟩, fun word => ⟨word.present, word.solid⟩⟩

theorem IsWord.endsSolid {text : List Char} (isWord : IsWord text) : EndsSolid text :=
  fun c last => isWord.solid c (List.mem_of_getLast? last)

theorem IsWord.isLineEnd {text : List Char} (isWord : IsWord text) :
    ∀ c ∈ text, Text.isLineEnd c = false :=
  fun c member => isLineEnd_of_solid (isWord.solid c member)

def spacedWords (text : List Char) : List (List Char) :=
  (text.splitOnP isBlank).filter fun word => !word.isEmpty

variable {c : Char} {gap word : List Char}

theorem spacedWords_append_cons (blank : isBlank c = true) (first second : List Char) :
    spacedWords (first ++ c :: second) = spacedWords first ++ spacedWords second := by
  rw [spacedWords, List.splitOnP_append_cons first second blank, List.filter_append]
  rfl

theorem spacedWords_cons (blank : isBlank c = true) (text : List Char) :
    spacedWords (c :: text) = spacedWords text :=
  spacedWords_append_cons blank [] text

theorem IsWord.spacedWords (isWord : IsWord word) : spacedWords word = [word] := by
  obtain ⟨c, rest, rfl⟩ := List.exists_cons_of_ne_nil isWord.present
  rw [Text.spacedWords, List.splitOnP_eq_singleton isWord.solid]
  rfl

theorem spacedWords_gap (blank : ∀ c ∈ gap, isBlank c = true) (text : List Char) :
    spacedWords (gap ++ text) = spacedWords text := by
  induction gap with
  | nil => rfl
  | cons c rest ih =>
    obtain ⟨own, others⟩ := List.forall_mem_cons.1 blank
    rw [List.cons_append, spacedWords_cons own, ih others]

theorem IsWord.spacedWords_append (isWord : IsWord word) (present : gap ≠ [])
    (blank : ∀ c ∈ gap, isBlank c = true) (text : List Char) :
    Text.spacedWords (word ++ (gap ++ text)) = word :: Text.spacedWords text := by
  obtain ⟨c, rest, rfl⟩ := List.exists_cons_of_ne_nil present
  obtain ⟨own, others⟩ := List.forall_mem_cons.1 blank
  rw [List.cons_append, spacedWords_append_cons own, isWord.spacedWords, List.singleton_append,
    spacedWords_gap others]

/-- The words of a list of names are the names, each but the last with a comma behind it. -/
theorem filter_spacedWords_commaSeparated {names : List String}
    (legible : ∀ name ∈ names, IsWord name.toList ∧ ',' ∉ name.toList) :
    (spacedWords (commaSeparated names).toList).map (List.filter (· ≠ ',')) =
      names.map String.toList := by
  induction names with
  | nil => rfl
  | cons name rest ih =>
    obtain ⟨⟨isWord, plain⟩, others⟩ := List.forall_mem_cons.1 legible
    have kept : name.toList.filter (· ≠ ',') = name.toList :=
      List.filter_eq_self.2 fun c member => decide_eq_true fun comma => plain (comma ▸ member)
    cases rest with
    | nil =>
      rw [commaSeparated, String.intercalate_singleton, isWord.spacedWords, List.map_singleton,
        kept]
      rfl
    | cons next more =>
      have marked : IsWord (name.toList ++ [',']) := by
        refine ⟨List.concat_ne_nil _ _, List.forall_mem_append.2 ⟨isWord.solid, ?_⟩⟩
        exact List.forall_mem_singleton.2 (by decide)
      have split : (commaSeparated (name :: next :: more)).toList =
          (name.toList ++ [',']) ++ ([' '] ++ (commaSeparated (next :: more)).toList) := by
        rw [commaSeparated, String.intercalate_cons_cons, String.toList_append,
          String.toList_append, List.append_assoc, List.append_assoc]
        rfl
      rw [split, marked.spacedWords_append (List.cons_ne_nil _ _) isBlank_of_mem_space,
        List.map_cons, ih others, List.filter_append, kept]
      simp

end Words

section Lists

theorem forall_mem_commaSeparated {names : List String} {p : Char → Prop}
    (separates : ∀ c ∈ [',', ' '], p c) (each : ∀ name ∈ names, ∀ c ∈ name.toList, p c) :
    ∀ c ∈ (commaSeparated names).toList, p c := by
  induction names with
  | nil => exact List.forall_mem_nil _
  | cons name rest ih =>
    obtain ⟨own, others⟩ := List.forall_mem_cons.1 each
    cases rest with
    | nil =>
      rw [commaSeparated, String.intercalate_singleton]
      exact own
    | cons next more =>
      rw [commaSeparated, String.intercalate_cons_cons, String.toList_append,
        String.toList_append]
      exact List.forall_mem_append.2
        ⟨List.forall_mem_append.2 ⟨own, separates⟩, ih others⟩

theorem endsSolid_commaSeparated {names : List String}
    (solid : ∀ name ∈ names, name.toList ≠ [] ∧ EndsSolid name.toList) (present : names ≠ []) :
    (commaSeparated names).toList ≠ [] ∧ EndsSolid (commaSeparated names).toList := by
  induction names with
  | nil => exact absurd rfl present
  | cons name rest ih =>
    obtain ⟨own, others⟩ := List.forall_mem_cons.1 solid
    cases rest with
    | nil =>
      rw [commaSeparated, String.intercalate_singleton]
      exact own
    | cons next more =>
      obtain ⟨some, ends⟩ := ih others (List.cons_ne_nil next more)
      rw [commaSeparated, String.intercalate_cons_cons, String.toList_append]
      exact ⟨List.append_ne_nil_of_right_ne_nil _ some, endsSolid_append some ends _⟩

end Lists

end RecordProjection.Text
