import RecordProjection.Proofs.Directive.Literal

/-! What is read out of a string. The text between its quotes is made of units in just one way, and
reading takes one character out of each of them: the one that stands alone or behind the backslash.
Only a line feed keeps the backslash that stands before it. -/

namespace RecordProjection.Directive
open Text

theorem unescape_lineFeed (rest : List Char) :
    unescape (backslash :: '\n' :: rest) = backslash :: '\n' :: unescape rest := by
  rw [unescape, if_neg (by simp), unescape_plain (by decide)]

namespace StringUnit

def character : StringUnit → Char
  | plain c _ => c
  | escaped c => c

def kept : StringUnit → List Char
  | plain c _ => [c]
  | escaped c => if c = '\n' then [backslash, c] else [c]

theorem written_injective {one other : List StringUnit}
    (same : one.flatMap written = other.flatMap written) : one = other := by
  induction one generalizing other with
  | nil =>
    cases other with
    | nil => rfl
    | cons unit units => cases unit <;> cases same
  | cons unit units ih =>
    cases other with
    | nil => cases unit <;> cases same
    | cons second others =>
      cases unit with
      | plain c ordinary =>
        cases second with
        | plain d also =>
          obtain ⟨rfl, rest⟩ := List.cons.inj same
          rw [ih rest]
        | escaped d => exact absurd (List.cons.inj same).1 ordinary.2
      | escaped c =>
        cases second with
        | plain d also => exact absurd (List.cons.inj same).1.symm also.2
        | escaped d =>
          obtain ⟨rfl, rest⟩ := List.cons.inj (List.cons.inj same).2
          rw [ih rest]

theorem unescape_written (units : List StringUnit) :
    unescape (units.flatMap written) = units.flatMap kept := by
  induction units with
  | nil => rfl
  | cons unit units ih =>
    rw [List.flatMap_cons, List.flatMap_cons, ← ih]
    cases unit with
    | plain c ordinary => exact unescape_plain ordinary.2 _
    | escaped c =>
      by_cases feed : c = '\n'
      · rw [written, kept, if_pos feed, feed]
        exact unescape_lineFeed _
      · rw [written, kept, if_neg feed]
        exact unescape_escaped feed _

theorem kept_eq_characters_iff {units : List StringUnit} :
    units.flatMap kept = units.map character ↔ escaped '\n' ∉ units := by
  induction units with
  | nil => exact iff_of_true rfl List.not_mem_nil
  | cons unit units ih =>
    rw [List.flatMap_cons, List.map_cons, List.mem_cons, not_or, ← ih]
    cases unit with
    | plain c ordinary => simp [kept, character]
    | escaped c =>
      by_cases feed : c = '\n'
      · subst feed
        simp [kept, character, backslash]
      · simp [kept, character, feed, Ne.symm feed]

end StringUnit

def IsQuoted (literal : String) (units : List StringUnit) : Prop :=
  literal.toList = doubleQuote :: (units.flatMap StringUnit.written ++ [doubleQuote])

instance (literal : String) (units : List StringUnit) : Decidable (IsQuoted literal units) :=
  inferInstanceAs (Decidable (_ = _))

theorem IsQuoted.unique {literal : String} {one other : List StringUnit}
    (first : IsQuoted literal one) (second : IsQuoted literal other) : one = other := by
  have same := (List.cons.inj (first.symm.trans second)).2
  exact StringUnit.written_injective (List.append_cancel_right same)

theorem IsQuoted.unquote {literal : String} {units : List StringUnit}
    (quoted : IsQuoted literal units) :
    (unquote literal).toList = units.flatMap StringUnit.kept := by
  rw [Directive.unquote, quoted, String.toList_ofList, List.drop_one, List.tail_cons,
    List.dropLast_concat, StringUnit.unescape_written]

theorem exists_isQuoted {text : String} {token : Token} (member : token ∈ tokenize text)
    (string : token.kind = .string) : ∃ units, IsQuoted token.text units := by
  obtain ⟨c, rest, split, -, reading⟩ := isLexeme_of_mem_scan member
  generalize length : rest.length = count at reading
  rw [string] at reading
  cases reads_of_extent reading with
  | string quote closed =>
    obtain ⟨units, more, whole, rfl⟩ := stringExtent_eq_some_iff.1 closed
    have ends : more = [] := by
      rw [whole, List.length_append, List.length_cons] at length
      exact List.eq_nil_of_length_eq_zero (by omega)
    exact ⟨units, by rw [IsQuoted, split, quote, whole, ends]⟩
  | single other => exact absurd rfl other.1

/-- A string splits into units in one way, and reading it gives the character of each unit unless a
line feed is escaped, whose backslash stays. -/
theorem unquote_string {text : String} {token : Token} (member : token ∈ tokenize text)
    (string : token.kind = .string) :
    ∃ units, IsQuoted token.text units ∧ (∀ other, IsQuoted token.text other → other = units) ∧
      (unquote token.text).toList = units.flatMap StringUnit.kept ∧
      ((unquote token.text).toList = units.map StringUnit.character ↔
        StringUnit.escaped '\n' ∉ units) := by
  obtain ⟨units, quoted⟩ := exists_isQuoted member string
  refine ⟨units, quoted, fun other also => also.unique quoted, quoted.unquote, ?_⟩
  rw [quoted.unquote]
  exact StringUnit.kept_eq_characters_iff

theorem unquote_string_escaped :
    let text := "\"a\\\"\\\\\\n\" \"\\\n\""
    let first : Token := ⟨.string, "\"a\\\"\\\\\\n\"", 0, 9⟩
    let second : Token := ⟨.string, "\"\\\n\"", 10, 14⟩
    let units : List StringUnit :=
      [.plain 'a' (by decide), .escaped '"', .escaped '\\', .escaped 'n']
    tokenize text = [first, second] ∧
      (IsQuoted first.text units ∧ unquote first.text = "a\"\\n") ∧
      IsQuoted second.text [.escaped '\n'] ∧ unquote second.text = "\\\n" := by
  intro text first second units
  have tokens : tokenize text = [first, second] := by decide +kernel
  have quoted : IsQuoted first.text units := by decide
  have also : IsQuoted second.text [.escaped '\n'] := by decide
  have member : first ∈ tokenize text ∧ second ∈ tokenize text := by rw [tokens]; simp
  obtain ⟨found, -, sole, -, read⟩ := unquote_string member.1 rfl
  obtain ⟨others, -, only, kept, -⟩ := unquote_string member.2 rfl
  rw [← sole units quoted] at read
  rw [← only _ also] at kept
  exact ⟨tokens, ⟨quoted, String.toList_inj.1 (read.2 (by simp [units]))⟩, also,
    String.toList_inj.1 kept⟩

theorem not_unquote_string :
    ¬ ∀ (text : String) (token : Token), token ∈ tokenize text → token.kind = .string →
      ∀ units, IsQuoted token.text units →
        (unquote token.text).toList = units.map StringUnit.character := by
  intro reads
  have tokens : tokenize "\"\\\n\"" = [⟨.string, "\"\\\n\"", 0, 4⟩] := by decide +kernel
  have quoted : IsQuoted "\"\\\n\"" [.escaped '\n'] := by decide
  have read := reads _ _ (tokens ▸ List.mem_cons_self) rfl _ quoted
  rw [quoted.unquote] at read
  exact absurd read (by decide)

end RecordProjection.Directive
