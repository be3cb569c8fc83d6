import Mathlib.Data.List.DropRight
import RecordProjection.Projection.Generics
import RecordProjection.Proofs.Directive.Partition

/-! Where the words of a type occur, said without scanning it. A name is a word of a type where
nothing that could belong to a word stands around it: no further character of a name behind it, and
in front of it neither an apostrophe nor a name, but digits that start none. A lifetime starts with
its apostrophe wherever that stands. -/

namespace RecordProjection
open Directive Text

/-- Whether a name that follows a text is a word of its own. -/
structure BeginsWord (before : List Char) : Prop where
  /-- What could run into the name does not start a word. -/
  digits : ∀ c ∈ before.rtakeWhile isIdentChar, c.isDigit = true
  unmarked : before.getLast? ≠ some apostrophe

inductive IsWordBehind (before : List Char) : List Char → Prop
  | name {word : List Char} (identifier : isIdentifier word = true) (begins : BeginsWord before) :
      IsWordBehind before word
  | lifetime {name : List Char} (identifier : isIdentifier name = true) :
      IsWordBehind before (apostrophe :: name)

def Occurs (word type : List Char) : Prop :=
  ∃ before after, type = before ++ (word ++ after) ∧ IsWordBehind before word ∧ StartsFresh after

section Characters
variable {c : Char}

theorem isDigit_of_isIdentStart (start : isIdentStart c = true) : c.isDigit = false := by
  rw [isIdentStart, Bool.or_eq_true, decide_eq_true_eq] at start
  rcases start with alphabetic | rfl
  · rw [Bool.eq_false_iff]
    intro digit
    have range := range_of_isAlpha alphabetic
    have last : '9'.toNat = 0x39 := rfl
    have below := (Char.isDigit_iff_toNat.1 digit).2
    omega
  · decide

theorem isDigit_of_isIdentChar (ident : isIdentChar c = true) (inner : isIdentStart c = false) :
    c.isDigit = true := by
  simp only [isIdentChar, isIdentStart, Char.isAlphanum] at *
  grind

theorem isIdentChar_apostrophe : isIdentChar apostrophe = false := by decide

end Characters

theorem rtakeWhile_append {α : Type} (keep : α → Bool) (front back : List α) :
    (front ++ back).rtakeWhile keep =
      if ∀ c ∈ back, keep c = true then front.rtakeWhile keep ++ back
      else back.rtakeWhile keep := by
  unfold List.rtakeWhile
  rw [List.reverse_append, List.takeWhile_append]
  by_cases all : ∀ c ∈ back, keep c = true
  · have whole : back.reverse.takeWhile keep = back.reverse :=
      List.takeWhile_eq_self_iff.2 (by simpa using all)
    rw [if_pos all, whole, if_pos rfl, List.reverse_append, List.reverse_reverse]
  · rw [if_neg all, if_neg]
    intro length
    have whole := (List.takeWhile_prefix keep).eq_of_length length
    exact all (by simpa using List.takeWhile_eq_self_iff.1 whole)

section Words
variable {c : Char} {rest : List Char} {count : Nat}

theorem wordExtent_eq_some_iff :
    wordExtent c rest = some count ↔ extent c rest = (.ident, count) := by
  unfold wordExtent extent
  by_cases quote : c = doubleQuote
  · subst quote
    have other : doubleQuote ≠ apostrophe ∧ isIdentStart doubleQuote = false := by decide
    rw [if_neg other.1, if_neg (by simp [other.2]), if_pos rfl]
    cases stringExtent rest <;> simp
  · rw [if_neg quote]
    by_cases mark : c = apostrophe
    · rw [if_pos mark, if_pos mark]
      cases lifetimeExtent rest <;> simp
    · rw [if_neg mark, if_neg mark]
      by_cases start : isIdentStart c = true
      · simp [start]
      · rw [if_neg start, if_neg start]
        split_ifs <;> simp

theorem isLexeme_ident_iff {word : List Char} :
    IsLexeme .ident word ↔ isIdentifier word = true ∨
      ∃ name, isIdentifier name = true ∧ word = apostrophe :: name := by
  constructor
  · rintro ⟨c, rest, rfl, -, reading⟩
    generalize length : rest.length = count at reading
    have letters : ∀ {more : List Char}, (more.takeWhile isIdentChar).length = more.length →
        more.all isIdentChar = true := fun whole => List.all_eq_true.2
      (List.takeWhile_eq_self_iff.1 ((List.takeWhile_prefix isIdentChar).eq_of_length whole))
    cases reads_of_extent reading with
    | @lifetime d more mark split start =>
      subst split
      refine .inr ⟨d :: more, ?_, by rw [mark]⟩
      rw [isIdentifier, start, letters (Nat.succ.inj length).symm, Bool.and_self]
    | word start => exact .inl (by rw [isIdentifier, start, letters length.symm, Bool.and_self])
    | single other => exact absurd rfl other.2
  · rintro (identifier | ⟨name, identifier, rfl⟩)
    · exact isLexeme_of_isIdentifier identifier
    · refine ⟨apostrophe, name, rfl, by decide, wordExtent_eq_some_iff.1 ?_⟩
      cases name with
      | nil => cases identifier
      | cons d more =>
        rw [isIdentifier, Bool.and_eq_true, List.all_eq_true] at identifier
        rw [wordExtent, if_pos rfl, lifetimeExtent, if_pos identifier.1,
          List.takeWhile_eq_self_iff.2 identifier.2, List.length_cons]

theorem wordExtent_append {more after : List Char} (lexeme : IsLexeme .ident (c :: more))
    (ends : StartsFresh after) : wordExtent c (more ++ after) = some more.length := by
  obtain ⟨d, others, same, -, reading⟩ := lexeme
  cases same
  rw [wordExtent_eq_some_iff, extent_append (fun _ _ _ => ends), reading]
  rintro rfl unclosed
  rw [extent_unclosed unclosed] at reading
  cases reading

theorem isIdentChar_of_mem_lexeme {more : List Char} (lexeme : IsLexeme .ident (c :: more)) :
    ∀ d ∈ more, isIdentChar d = true := by
  rcases isLexeme_ident_iff.1 lexeme with identifier | ⟨name, identifier, same⟩
  · exact (List.forall_mem_cons.1 (isIdentChar_of_mem_isIdentifier identifier)).2
  · rw [(List.cons.inj same).2]
    exact isIdentChar_of_mem_isIdentifier identifier

theorem isBlank_of_wordExtent (read : wordExtent c rest = some count) : isBlank c = false := by
  cases reads_of_extent (wordExtent_eq_some_iff.1 read) with
  | lifetime mark => exact mark ▸ by decide
  | word start => exact isBlank_of_isIdentChar (isIdentChar_of_isIdentStart start)
  | single other => exact absurd rfl other.2

theorem isLexeme_of_wordExtent (read : wordExtent c rest = some count) :
    IsLexeme .ident (c :: rest.take count) := by
  have reading := wordExtent_eq_some_iff.1 read
  have solid := isBlank_of_wordExtent read
  have within := (extent_closes rest solid).1
  rw [reading] at within
  refine ⟨c, rest.take count, rfl, solid, ?_⟩
  rw [extent_take solid (by rw [reading]), reading, List.length_take_of_le within]

theorem startsFresh_of_wordExtent (read : wordExtent c rest = some count) :
    StartsFresh (rest.drop count) :=
  startsFresh_of_reads (reads_of_extent (wordExtent_eq_some_iff.1 read))

end Words

section Contexts
variable {c : Char} {front before word : List Char}

theorem IsWordBehind.lexeme (behind : IsWordBehind before word) : IsLexeme .ident word := by
  cases behind with
  | name identifier => exact isLexeme_ident_iff.2 (.inl identifier)
  | lifetime identifier => exact isLexeme_ident_iff.2 (.inr ⟨_, identifier, rfl⟩)

theorem isWordBehind_of_lexeme (lexeme : IsLexeme .ident word)
    (begins : isIdentifier word = true → BeginsWord before) : IsWordBehind before word := by
  rcases isLexeme_ident_iff.1 lexeme with identifier | ⟨name, identifier, rfl⟩
  · exact .name identifier (begins identifier)
  · exact .lifetime identifier

theorem isIdentifier_lifetime (name : List Char) : isIdentifier (apostrophe :: name) = false := by
  have outside : isIdentStart apostrophe = false := by decide
  rw [isIdentifier, outside, Bool.false_and]

theorem IsWordBehind.begins (behind : IsWordBehind before word)
    (identifier : isIdentifier word = true) : BeginsWord before := by
  cases behind with
  | name _ begins => exact begins
  | lifetime =>
    rw [isIdentifier_lifetime] at identifier
    cases identifier

theorem isWordBehind_congr
    (same : isIdentifier word = true → (BeginsWord front ↔ BeginsWord before)) :
    IsWordBehind front word ↔ IsWordBehind before word := by
  constructor
  · exact fun behind => isWordBehind_of_lexeme behind.lexeme fun identifier =>
      (same identifier).1 (behind.begins identifier)
  · exact fun behind => isWordBehind_of_lexeme behind.lexeme fun identifier =>
      (same identifier).2 (behind.begins identifier)

theorem beginsWord_nil : BeginsWord [] where
  digits := by simp
  unmarked := by simp

theorem beginsWord_append (outside : ∃ d ∈ before, isIdentChar d = false) :
    BeginsWord (front ++ before) ↔ BeginsWord before := by
  obtain ⟨d, member, ident⟩ := outside
  have run : (front ++ before).rtakeWhile isIdentChar = before.rtakeWhile isIdentChar := by
    rw [rtakeWhile_append, if_neg]
    intro all
    rw [all d member] at ident
    cases ident
  have last : (front ++ before).getLast? = before.getLast? :=
    List.getLast?_append_of_ne_nil _ (List.ne_nil_of_mem member)
  constructor
  · exact fun begins => ⟨run ▸ begins.digits, last ▸ begins.unmarked⟩
  · exact fun begins => ⟨run.symm ▸ begins.digits, last.symm ▸ begins.unmarked⟩

/-- Nor does a character that starts no name, unless it is an apostrophe right in front of one. -/
theorem beginsWord_cons (inner : isIdentStart c = false) (apart : c = apostrophe → before ≠ []) :
    BeginsWord (c :: before) ↔ BeginsWord before := by
  have alone : ∀ d ∈ [c].rtakeWhile isIdentChar, d.isDigit = true := by
    intro d member
    have same : d = c := List.mem_singleton.1 ((List.rtakeWhile_suffix _ _).subset member)
    subst same
    exact isDigit_of_isIdentChar (List.mem_rtakeWhile_imp member) inner
  have run := rtakeWhile_append isIdentChar [c] before
  have digits : (∀ d ∈ (c :: before).rtakeWhile isIdentChar, d.isDigit = true) ↔
      ∀ d ∈ before.rtakeWhile isIdentChar, d.isDigit = true := by
    rw [List.singleton_append] at run
    rw [run]
    by_cases all : ∀ d ∈ before, isIdentChar d = true
    · rw [if_pos all, List.rtakeWhile_eq_self_iff.2 all, List.forall_mem_append]
      exact and_iff_right alone
    · rw [if_neg all]
  have last : (c :: before).getLast? ≠ some apostrophe ↔ before.getLast? ≠ some apostrophe := by
    cases before with
    | nil => exact iff_of_true (fun same => apart (Option.some.inj same) rfl) (by simp)
    | cons d more => rw [List.getLast?_cons_cons]
  constructor
  · exact fun begins => ⟨digits.1 begins.digits, last.1 begins.unmarked⟩
  · exact fun begins => ⟨digits.2 begins.digits, last.2 begins.unmarked⟩

theorem not_beginsWord_of_letters {others : List Char} (start : isIdentStart c = true)
    (letters : ∀ d ∈ others, isIdentChar d = true) (front : List Char) :
    ¬ BeginsWord (front ++ c :: others) := by
  intro begins
  have all : ∀ d ∈ c :: others, isIdentChar d = true :=
    List.forall_mem_cons.2 ⟨isIdentChar_of_isIdentStart start, letters⟩
  have run := rtakeWhile_append isIdentChar front (c :: others)
  rw [if_pos all] at run
  have digit := begins.digits c (by rw [run]; simp)
  rw [isDigit_of_isIdentStart start] at digit
  cases digit

theorem not_beginsWord_inside (lexeme : IsLexeme .ident (front ++ before)) (some : front ≠ []) :
    ¬ BeginsWord front := by
  rcases isLexeme_ident_iff.1 lexeme with identifier | ⟨name, identifier, split⟩
  · obtain ⟨c, others, rfl⟩ := List.exists_cons_of_ne_nil some
    rw [List.cons_append, isIdentifier, Bool.and_eq_true, List.all_eq_true] at identifier
    exact not_beginsWord_of_letters identifier.1
      (fun d member => identifier.2 d (List.mem_append_left _ member)) []
  · obtain ⟨c, others, rfl⟩ := List.exists_cons_of_ne_nil some
    rw [List.cons_append, List.cons.injEq] at split
    obtain ⟨rfl, rfl⟩ := split
    cases others with
    | nil => exact fun begins => begins.unmarked rfl
    | cons d others =>
      rw [List.cons_append, isIdentifier, Bool.and_eq_true, List.all_eq_true] at identifier
      exact not_beginsWord_of_letters identifier.1
        (fun e member => identifier.2 e (List.mem_append_left _ member)) [apostrophe]

theorem not_isWordBehind_inside {d : Char} {more others : List Char}
    (lexeme : IsLexeme .ident (front ++ d :: more)) (some : front ≠ []) :
    ¬ IsWordBehind front (d :: others) := by
  intro behind
  have letter : isIdentChar d = true := by
    obtain ⟨c, inner, rfl⟩ := List.exists_cons_of_ne_nil some
    exact isIdentChar_of_mem_lexeme lexeme d (by simp)
  -- A lifetime would start with an apostrophe, which stands in no word.
  rcases isLexeme_ident_iff.1 behind.lexeme with identifier | ⟨name, -, same⟩
  · exact not_beginsWord_inside lexeme some (behind.begins identifier)
  · rw [(List.cons.inj same).1, isIdentChar_apostrophe] at letter
    cases letter

end Contexts

section Occurrences
variable {c : Char} {word rest : List Char} {count : Nat}

theorem not_occurs_nil : ¬ Occurs word [] := by
  rintro ⟨before, after, split, behind, -⟩
  have present := behind.lexeme.present
  simp at split
  exact present split.2.1

theorem occurs_cons_of_unread (unread : wordExtent c rest = none) :
    Occurs word (c :: rest) ↔ Occurs word rest := by
  have inner : isIdentStart c = false := by
    by_contra start
    rw [Bool.not_eq_false] at start
    have plain : c ≠ apostrophe := by
      rintro rfl
      cases start
    rw [wordExtent, if_neg plain, if_pos start] at unread
    cases unread
  have same : ∀ {before after : List Char}, rest = before ++ (word ++ after) →
      (IsWordBehind (c :: before) word ↔ IsWordBehind before word) := by
    rintro before after rfl
    refine isWordBehind_congr fun identifier => beginsWord_cons inner ?_
    rintro rfl rfl
    cases word with
    | nil => cases identifier
    | cons d more =>
      rw [isIdentifier, Bool.and_eq_true] at identifier
      rw [List.nil_append, wordExtent, if_pos rfl, List.cons_append, lifetimeExtent,
        if_pos identifier.1] at unread
      cases unread
  constructor
  · rintro ⟨_ | ⟨d, before⟩, after, split, behind, ends⟩
    · obtain ⟨d, more, rfl, -⟩ := behind.lexeme
      rw [List.nil_append, List.cons_append, List.cons.injEq] at split
      obtain ⟨rfl, rfl⟩ := split
      rw [wordExtent_append behind.lexeme ends] at unread
      cases unread
    · rw [List.cons_append, List.cons.injEq] at split
      obtain ⟨rfl, rest_split⟩ := split
      exact ⟨before, after, rest_split, (same rest_split).1 behind, ends⟩
  · rintro ⟨before, after, split, behind, ends⟩
    exact ⟨c :: before, after, by rw [split, List.cons_append], (same split).2 behind, ends⟩

theorem exists_outside {before after : List Char} (fresh : StartsFresh (before ++ (word ++ after)))
    (identifier : isIdentifier word = true) : ∃ d ∈ before, isIdentChar d = false := by
  cases before with
  | nil =>
    cases word with
    | nil => cases identifier
    | cons d more =>
      have ident := isIdentChar_of_mem_isIdentifier identifier d List.mem_cons_self
      rw [fresh d rfl] at ident
      cases ident
  | cons d more => exact ⟨d, List.mem_cons_self, fresh d rfl⟩

theorem occurs_cons_of_read (read : wordExtent c rest = some count) :
    Occurs word (c :: rest) ↔ word = c :: rest.take count ∨ Occurs word (rest.drop count) := by
  have lexeme := isLexeme_of_wordExtent read
  have fresh := startsFresh_of_wordExtent read
  have whole : c :: rest = (c :: rest.take count) ++ rest.drop count := by
    rw [List.cons_append, List.take_append_drop]
  constructor
  · rintro ⟨before, after, split, behind, ends⟩
    by_cases front : before = []
    · -- The word starts where the text does, so it is the one that is read there.
      obtain ⟨d, more, rfl, -⟩ := behind.lexeme
      rw [front, List.nil_append, List.cons_append, List.cons.injEq] at split
      obtain ⟨rfl, rfl⟩ := split
      rw [wordExtent_append behind.lexeme ends, Option.some.injEq] at read
      exact .inl (by rw [List.take_left' read])
    · rw [whole, List.append_eq_append_iff] at split
      rcases split with ⟨between, rfl, split⟩ | ⟨inside, split, overlap⟩
      · refine .inr ⟨between, after, split, (isWordBehind_congr fun identifier =>
          beginsWord_append ?_).1 behind, ends⟩
        exact exists_outside (split ▸ fresh) identifier
      · cases inside with
        | nil =>
          exact .inr ⟨[], after, overlap.symm,
            isWordBehind_of_lexeme behind.lexeme fun _ => beginsWord_nil, ends⟩
        | cons d more =>
          obtain ⟨e, others, rfl, -⟩ := behind.lexeme
          rw [List.cons_append, List.cons_append, List.cons.injEq] at overlap
          obtain ⟨rfl, -⟩ := overlap
          exact absurd behind (not_isWordBehind_inside (split ▸ lexeme) front)
  · rintro (rfl | ⟨before, after, split, behind, ends⟩)
    · exact ⟨[], rest.drop count, whole, isWordBehind_of_lexeme lexeme fun _ => beginsWord_nil,
        fresh⟩
    · refine ⟨(c :: rest.take count) ++ before, after, by rw [whole, split, List.append_assoc],
        (isWordBehind_congr fun identifier => beginsWord_append ?_).2 behind, ends⟩
      exact exists_outside (split ▸ fresh) identifier

theorem mem_wordsOf_iff {type : List Char} : word ∈ wordsOf type ↔ Occurs word type := by
  fun_induction wordsOf type with
  | case1 => exact iff_of_false List.not_mem_nil not_occurs_nil
  | case2 c rest count read ih => rw [List.mem_cons, ih, occurs_cons_of_read read]
  | case3 c rest unread ih => rw [ih, occurs_cons_of_unread unread]

theorem mem_typeWords_iff {type word : String} :
    word ∈ typeWords type ↔ Occurs word.toList type.toList := by
  rw [← mem_wordsOf_iff, typeWords, List.mem_map]
  constructor
  · rintro ⟨letters, member, rfl⟩
    rwa [String.toList_ofList]
  · exact fun member => ⟨word.toList, member, String.ofList_toList⟩

theorem mem_vocabulary_iff {type word : String} :
    word ∈ vocabulary type ↔ Occurs word.toList type.toList := by
  rw [vocabulary, sortedDistinct, List.mem_mergeSort, List.mem_eraseDups, mem_typeWords_iff]

instance (word type : List Char) : Decidable (Occurs word type) :=
  decidable_of_iff _ mem_wordsOf_iff

theorem occurs_name_iff {name type : List Char} (identifier : isIdentifier name = true) :
    Occurs name type ↔ ∃ before after,
      type = before ++ (name ++ after) ∧ BeginsWord before ∧ StartsFresh after := by
  constructor
  · rintro ⟨before, after, split, behind, ends⟩
    exact ⟨before, after, split, behind.begins identifier, ends⟩
  · rintro ⟨before, after, split, begins, ends⟩
    exact ⟨before, after, split, .name identifier begins, ends⟩

theorem occurs_lifetime_iff {name type : List Char} (identifier : isIdentifier name = true) :
    Occurs (apostrophe :: name) type ↔ ∃ before after,
      type = before ++ (apostrophe :: name ++ after) ∧ StartsFresh after := by
  constructor
  · rintro ⟨before, after, split, -, ends⟩
    exact ⟨before, after, split, ends⟩
  · rintro ⟨before, after, split, ends⟩
    exact ⟨before, after, split, .lifetime identifier, ends⟩

end Occurrences

end RecordProjection
