import RecordProjection.Proofs.Text.Blank

/-! Line ends as they are read between tags. A carriage return becomes a line feed and takes a line
feed behind it along. Nothing else changes, so what is blank or trimmed stays so. -/

namespace RecordProjection.Text

def lineFeeds : List Char → List Char
  | [] => []
  | '\r' :: '\n' :: rest => '\n' :: lineFeeds rest
  | '\r' :: rest => '\n' :: lineFeeds rest
  | c :: rest => c :: lineFeeds rest

theorem lineFeeds_eq_self {text : List Char} (plain : '\r' ∉ text) : lineFeeds text = text := by
  fun_induction lineFeeds text with
  | case1 => rfl
  | case2 => exact absurd List.mem_cons_self plain
  | case3 => exact absurd List.mem_cons_self plain
  | case4 c rest _ _ ih => rw [ih fun member => plain (List.mem_cons_of_mem c member)]

theorem not_mem_lineFeeds (text : List Char) : '\r' ∉ lineFeeds text := by
  fun_induction lineFeeds text with
  | case1 => exact List.not_mem_nil
  | case2 rest ih => exact List.not_mem_cons_of_ne_of_not_mem (by decide) ih
  | case3 rest _ ih => exact List.not_mem_cons_of_ne_of_not_mem (by decide) ih
  | case4 c rest _ other ih => exact List.not_mem_cons_of_ne_of_not_mem (Ne.symm other) ih

theorem lineFeeds_eq_self_iff {text : List Char} : lineFeeds text = text ↔ '\r' ∉ text :=
  ⟨fun same => same ▸ not_mem_lineFeeds text, lineFeeds_eq_self⟩

theorem all_isBlank_lineFeeds (text : List Char) :
    (lineFeeds text).all isBlank = text.all isBlank := by
  have feed : isBlank '\n' = true := by decide
  have carriage : isBlank '\r' = true := by decide
  fun_induction lineFeeds text with
  | case1 => rfl
  | case2 rest ih => simp only [List.all_cons, feed, carriage, Bool.true_and, ih]
  | case3 rest _ ih => simp only [List.all_cons, feed, carriage, Bool.true_and, ih]
  | case4 c rest _ _ ih => simp only [List.all_cons, ih]

theorem startsSolid_lineFeeds {text : List Char} (solid : StartsSolid text) :
    StartsSolid (lineFeeds text) := by
  have carriage : isBlank '\r' ≠ false := by decide
  fun_cases lineFeeds text with
  | case1 => exact solid
  | case2 => exact absurd (solid _ rfl) carriage
  | case3 => exact absurd (solid _ rfl) carriage
  | case4 => exact fun d first => solid d first

/-- A line feed belongs to the carriage return before it, any other character starts anew. -/
theorem lineFeeds_append (front : List Char) {c : Char} (apart : c ≠ '\n') (rest : List Char) :
    lineFeeds (front ++ c :: rest) = lineFeeds front ++ lineFeeds (c :: rest) := by
  fun_induction lineFeeds front with
  | case1 => rfl
  | case2 front ih => simp only [List.cons_append, lineFeeds, ih]
  | case3 front alone ih =>
    have still : ∀ tail, front ++ c :: rest = '\n' :: tail → False := by
      cases front with
      | nil => exact fun tail same => apart (List.cons.inj same).1
      | cons d more => exact fun tail same => alone more ((List.cons.inj same).1 ▸ rfl)
    rw [List.cons_append, lineFeeds, ih, List.cons_append]
    exact still
  | case4 d front _ other ih =>
    rw [List.cons_append, lineFeeds, ih, List.cons_append]
    · exact fun tail same _ => other same
    · exact other

theorem endsSolid_lineFeeds {text : List Char} (solid : EndsSolid text) :
    EndsSolid (lineFeeds text) := by
  rcases text.eq_nil_or_concat with rfl | ⟨front, c, rfl⟩
  · exact solid
  · rw [List.concat_eq_append] at solid ⊢
    have last := solid c List.getLast?_concat
    have ordinary : c ≠ '\n' ∧ c ≠ '\r' := by
      constructor <;> (rintro rfl; revert last; decide)
    have alone : lineFeeds [c] = [c] := lineFeeds_eq_self fun member =>
      ordinary.2 (List.mem_singleton.1 member).symm
    rw [lineFeeds_append front ordinary.1, alone]
    exact endsSolid_append (List.cons_ne_nil c []) (fun d found => Option.some.inj found ▸ last) _

theorem isTrimmed_lineFeeds {text : String} (trimmed : IsTrimmed text) :
    IsTrimmed (.ofList (lineFeeds text.toList)) := by
  apply isTrimmed_of_solid
  · rw [String.toList_ofList]
    exact startsSolid_lineFeeds (trimmed ▸ startsSolid_trim text)
  · rw [String.toList_ofList]
    exact endsSolid_lineFeeds (trimmed ▸ endsSolid_trim text)

end RecordProjection.Text
