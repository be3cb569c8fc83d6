import Mathlib.Data.List.TakeWhile
import RecordProjection.Text.Character

/-! Trimmed texts. A text is trimmed if it neither starts nor ends with a blank, and trimming leaves
such a text behind. -/

namespace RecordProjection.Text

def IsTrimmed (text : String) : Prop := trim text = text

instance (text : String) : Decidable (IsTrimmed text) := inferInstanceAs (Decidable (_ = _))

def StartsSolid (text : List Char) : Prop := ∀ c, text.head? = some c → isBlank c = false

def EndsSolid (text : List Char) : Prop := ∀ c, text.getLast? = some c → isBlank c = false

theorem trimLeft_eq_self {text : List Char} (solid : StartsSolid text) : trimLeft text = text := by
  cases text with
  | nil => rfl
  | cons c rest => simp [trimLeft, solid c rfl]

theorem trimRight_eq_self {text : List Char} (solid : EndsSolid text) : trimRight text = text := by
  have reversed : StartsSolid text.reverse := fun c first => solid c (by
    rwa [List.head?_reverse] at first)
  rw [trimRight, ← trimLeft, trimLeft_eq_self reversed, List.reverse_reverse]

theorem startsSolid_trimLeft (text : List Char) : StartsSolid (trimLeft text) := by
  intro c first
  have solid := List.head?_dropWhile_not isBlank text
  rw [trimLeft] at first
  simpa [first] using solid

theorem endsSolid_trimRight (text : List Char) : EndsSolid (trimRight text) := by
  intro c last
  rw [trimRight, List.getLast?_reverse] at last
  exact startsSolid_trimLeft text.reverse c last

theorem trimRight_initial (text : List Char) : trimRight text <+: text := by
  have suffix : text.reverse.dropWhile isBlank <:+ text.reverse := List.dropWhile_suffix isBlank
  rwa [← List.reverse_prefix, List.reverse_reverse] at suffix

theorem trimRight_blank {gap : List Char} (blank : ∀ c ∈ gap, isBlank c = true) :
    trimRight gap = [] := by
  rw [trimRight, List.reverse_eq_nil_iff, List.dropWhile_eq_nil_iff]
  exact fun c member => blank c (List.mem_reverse.1 member)

theorem trimRight_append {front : List Char} (solid : EndsSolid front) (rest : List Char) :
    trimRight (front ++ rest) = front ++ trimRight rest := by
  have ends := trimRight_eq_self solid
  rw [trimRight] at ends ⊢
  rw [trimRight, List.reverse_append, List.dropWhile_append]
  split
  · rename_i blank
    rw [List.isEmpty_iff.1 blank, ends, List.reverse_nil, List.append_nil]
  · rw [List.reverse_append, List.reverse_reverse]

theorem isTrimmed_of_solid {text : String} (first : StartsSolid text.toList)
    (last : EndsSolid text.toList) : IsTrimmed text := by
  rw [IsTrimmed, trim, trimLeft_eq_self first, trimRight_eq_self last, String.ofList_toList]

theorem startsSolid_append {first : List Char} (present : first ≠ []) (solid : StartsSolid first)
    (rest : List Char) : StartsSolid (first ++ rest) := by
  intro c found
  obtain ⟨d, more, rfl⟩ := List.exists_cons_of_ne_nil present
  exact solid c found

theorem endsSolid_append {last : List Char} (present : last ≠ []) (solid : EndsSolid last)
    (front : List Char) : EndsSolid (front ++ last) := by
  intro c found
  rw [List.getLast?_append, List.getLast?_eq_some_getLast present, Option.some_or] at found
  exact solid c (List.getLast?_eq_some_getLast present ▸ found)

theorem EndsSolid.of_suffix {last text : List Char} (solid : EndsSolid text)
    (suffix : last <:+ text) : EndsSolid last := by
  obtain ⟨front, rfl⟩ := suffix
  intro c found
  exact solid c (by rw [List.getLast?_append, found]; rfl)

theorem trim_contiguous (text : String) : (trim text).toList <:+: text.toList := by
  rw [trim, String.toList_ofList]
  exact (trimRight_initial _).isInfix.trans (List.dropWhile_suffix isBlank).isInfix

theorem startsSolid_trim (text : String) : StartsSolid (trim text).toList := by
  rw [trim, String.toList_ofList]
  intro c first
  obtain ⟨tail, whole⟩ := trimRight_initial (trimLeft text.toList)
  refine startsSolid_trimLeft text.toList c ?_
  rw [← whole, List.head?_append, first]
  rfl

theorem endsSolid_trim (text : String) : EndsSolid (trim text).toList := by
  rw [trim, String.toList_ofList]
  exact endsSolid_trimRight _

theorem IsTrimmed.startsSolid {text : String} (trimmed : IsTrimmed text) :
    StartsSolid text.toList := by
  rw [← show trim text = text from trimmed]
  exact startsSolid_trim text

theorem IsTrimmed.endsSolid {text : String} (trimmed : IsTrimmed text) :
    EndsSolid text.toList := by
  rw [← show trim text = text from trimmed]
  exact endsSolid_trim text

theorem isTrimmed_trim (text : String) : IsTrimmed (trim text) :=
  isTrimmed_of_solid (startsSolid_trim text) (endsSolid_trim text)

end RecordProjection.Text
