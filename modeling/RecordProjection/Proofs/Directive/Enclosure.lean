import RecordProjection.Diagnostic
import RecordProjection.Proofs.Directive.Body

/-! Which annotations have a body. Trimmed, such an annotation is its path, perhaps blanks, and a
text in parentheses that closes all its brackets itself. This text is the body as it stands there,
and its tokens are the same as they are in the annotation. -/

namespace RecordProjection.Directive
open Text

section Paths
variable {text ident rest : List Char}

theorem leadingIdent_eq_some (read : leadingIdent text = some (ident, rest)) :
    text = ident ++ rest ∧ ident ≠ [] ∧ EndsSolid ident := by
  cases text with
  | nil => cases read
  | cons c more =>
    rw [leadingIdent] at read
    split at read
    · rename_i start
      cases read
      refine ⟨?_, List.cons_ne_nil _ _, fun d last => ?_⟩
      · rw [List.cons_append, List.takeWhile_append_dropWhile]
      · rcases getLast?_takeWhile last with rfl | inside
        · exact isBlank_of_isIdentChar (isIdentChar_of_isIdentStart start)
        · exact isBlank_of_isIdentChar inside
    · cases read

theorem endsSolid_join {front behind : List Char} (first : EndsSolid front)
    (second : EndsSolid behind) : EndsSolid (front ++ behind) := by
  cases behind with
  | nil => rwa [List.append_nil]
  | cons c more => exact endsSolid_append (List.cons_ne_nil c more) second front

theorem pathTail_initial (text : List Char) :
    pathTail text <+: text ∧ EndsSolid (pathTail text) := by
  fun_induction pathTail text with
  | case1 rest ident remaining read ih =>
    obtain ⟨split, present, solid⟩ := leadingIdent_eq_some read
    obtain ⟨⟨behind, whole⟩, ends⟩ := ih
    refine ⟨⟨behind, ?_⟩, ?_⟩
    · rw [split, List.append_assoc, whole]
      rfl
    · exact endsSolid_join (endsSolid_append present solid [':', ':']) ends
  | case2 => exact ⟨List.nil_prefix, by rintro c ⟨⟩⟩
  | case3 => exact ⟨List.nil_prefix, by rintro c ⟨⟩⟩

variable {path note : String}

theorem trim_of_leadingPath (leads : leadingPath note = some path) :
    trim note = path ++ behindPath path note := by
  obtain ⟨⟨ident, rest⟩, read, rfl⟩ := Option.map_eq_some_iff.1 leads
  obtain ⟨split, present, solid⟩ := leadingIdent_eq_some read
  obtain ⟨⟨behind, whole⟩, ends⟩ := pathTail_initial rest
  have left : trimLeft note.toList = (ident ++ pathTail rest) ++ behind := by
    rw [split, List.append_assoc, whole]
  have trimmed : (trim note).toList = (ident ++ pathTail rest) ++ trimRight behind := by
    rw [trim, String.toList_ofList, left, trimRight_append (endsSolid_join solid ends)]
  apply String.toList_inj.1
  rw [String.toList_append, behindPath, String.toList_ofList, String.toList_ofList,
    ← String.length_toList, String.toList_ofList, trimmed, List.drop_left]

end Paths

section Parentheses
variable {note path text rest : String} {opener closer : Token} {inner : List Token}

theorem split_of_encloses (encloses : Encloses (tokenize rest) opener inner closer)
    (solid : EndsSolid rest.toList) :
    ∃ gap : String, (∀ c ∈ gap.toList, isBlank c = true) ∧
      rest = gap ++ ("(" ++ slice rest opener.stop closer.start ++ ")") := by
  have first : opener ∈ tokenize rest := by simp [encloses.split]
  have last : closer ∈ tokenize rest := by simp [encloses.split]
  have order := pairwise_scan 0 rest.toList
  rw [← tokenize, encloses.split] at order
  have between := List.rel_of_pairwise_cons order (by simp : closer ∈ inner ++ [closer])
  have present : rest.toList ≠ [] := by
    intro absent
    rw [tokenize, absent, scan_nil] at first
    cases first
  obtain ⟨final, found, stop⟩ := scan_solid_end 0 present solid
  have reached : closer.stop = rest.length := by
    rw [← tokenize, encloses.split, ← List.cons_append, List.getLast?_concat] at found
    rw [Option.some.inj found, stop, Nat.zero_add, String.length_toList]
  have blank := isBlank_before encloses.split
  refine ⟨slice rest 0 opener.start, blank, ?_⟩
  have opens := (text_eq_slice first).2
  have closes := (text_eq_slice last).2
  rw [encloses.opens.2] at opens
  rw [encloses.closes.2, reached] at closes
  have long := start_lt_stop first
  have room := (text_eq_slice last).1
  have apart := start_lt_stop last
  rw [opens, closes, slice_append rest (Nat.le_of_lt long) between,
    slice_append rest (by omega) (by omega), slice_append rest (Nat.zero_le _) (by omega),
    slice_whole]

/-- Whether a text stands in parentheses behind the path of an annotation and closes its own
brackets. -/
def IsEnclosed (path note text : String) : Prop :=
  ∃ gap : String, (∀ c ∈ gap.toList, isBlank c = true) ∧
    trim note = path ++ (gap ++ ("(" ++ text ++ ")")) ∧ Balanced (tokenize text)

theorem behindPath_of_trim {behind : String} (whole : trim note = path ++ behind) :
    behindPath path note = behind := by
  rw [behindPath, whole, String.toList_append, ← String.length_toList, List.drop_left,
    String.ofList_toList]

theorem endsSolid_behindPath (path note : String) : EndsSolid (behindPath path note).toList := by
  rw [behindPath, String.toList_ofList]
  exact (endsSolid_trim note).of_suffix (List.drop_suffix _ _)

theorem isEnclosed_of_body (leads : leadingPath note = some path)
    (read : body path note = .ok text) : IsEnclosed path note text := by
  have balanced := balanced_of_body read
  obtain ⟨opener, inner, closer, encloses, rfl⟩ := encloses_of_body read
  obtain ⟨gap, blank, split⟩ := split_of_encloses encloses (endsSolid_behindPath path note)
  refine ⟨gap, blank, ?_, balanced⟩
  rw [← split]
  exact trim_of_leadingPath leads

/-- What is said of an annotation without a body: the list is missing, it does not end, or there is
more behind it. -/
theorem cause_of_body {cause : Malformation} (failed : body path note = .error cause) :
    cause = .missingList path (trim note) ∨ cause = .unterminatedList (trim note) ∨
      ∃ trailing, cause = .trailingText trailing path := by
  unfold body at failed
  dsimp only at failed
  repeat' split at failed
  all_goals cases failed
  · exact .inl rfl
  · exact .inl rfl
  · exact .inr (.inl rfl)
  · exact .inr (.inl rfl)
  · exact .inr (.inr ⟨_, rfl⟩)

end Parentheses

/-- An annotation has a body if and only if a balanced text in parentheses is all that follows its
path; every other one is malformed. The body has the tokens that stand between the parentheses. -/
theorem body_eq_ok_iff_isEnclosed {path note : String} (leads : leadingPath note = some path) :
    (∀ text, body path note = .ok text ↔ IsEnclosed path note text) ∧
      ((∀ text, ¬ IsEnclosed path note text) → ∃ cause, body path note = .error cause ∧
        (cause = .missingList path (trim note) ∨ cause = .unterminatedList (trim note) ∨
          ∃ trailing, cause = .trailingText trailing path) ∧
        ∀ location, (Diagnostic.malformed cause location).code.text = "SYNTAX_ERROR") ∧
      ∀ text, body path note = .ok text → ∃ opener closer : Token,
        tokenize (behindPath path note) =
            opener :: ((tokenize text).map (Token.moved opener.stop) ++ [closer]) ∧
          opener.text = "(" ∧ closer.text = ")" := by
  have accepts : ∀ text, body path note = .ok text ↔ IsEnclosed path note text := by
    refine fun text => ⟨isEnclosed_of_body leads, ?_⟩
    rintro ⟨gap, blank, whole, balanced⟩
    exact body_of_behindPath blank (behindPath_of_trim whole) balanced
  refine ⟨accepts, fun never => ?_, fun text read => tokenize_of_body read⟩
  cases result : body path note with
  | ok text => exact absurd ((accepts text).1 result) (never text)
  | error cause => exact ⟨cause, rfl, cause_of_body result, fun _ => rfl⟩

theorem body_eq_ok_iff_isEnclosed_unclosed :
    let note := " substruct\n (a, \"(\" [b], 'c \" x\\) "
    let text := "a, \"(\" [b], 'c \" x\\"
    leadingPath note = some DirectiveKind.membership.path ∧
      body DirectiveKind.membership.path note = .ok text ∧
      IsEnclosed DirectiveKind.membership.path note text ∧
      ∃ opener closer : Token, tokenize (behindPath DirectiveKind.membership.path note) =
          opener :: ((tokenize text).map (Token.moved opener.stop) ++ [closer]) ∧
        opener.text = "(" ∧ closer.text = ")" := by
  intro note text
  have leads : leadingPath note = some DirectiveKind.membership.path := by decide +kernel
  have read : body DirectiveKind.membership.path note = .ok text := by decide +kernel
  obtain ⟨accepts, -, tokens⟩ := body_eq_ok_iff_isEnclosed leads
  exact ⟨leads, read, (accepts text).1 read, tokens text read⟩

end RecordProjection.Directive
