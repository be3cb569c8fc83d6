import Mathlib.Data.List.TakeWhile
import RecordProjection.Command.Run
import RecordProjection.Proofs.Text.Numeral

/-! What the console lets through. Texts are printed one after the other until one of them has a
character that the console does not show, which ends the run. -/

namespace RecordProjection.Command
open Text

section Texts
variable (console : Console)

theorem fault?_eq_none_iff (text : String) :
    console.fault? text = none ↔ ∀ c ∈ text.toList, console.shows c = true := by
  rw [Console.fault?, ← List.dropWhile_eq_nil_iff]
  dsimp only
  split
  · rename_i shown
    simp [shown]
  · rename_i hidden
    simp [hidden]

theorem fault?_of_ascii {text : String} (ascii : ∀ c ∈ text.toList, c.toNat < 0x80) :
    console.fault? text = none :=
  (fault?_eq_none_iff console text).2 fun c member => console.ascii c (ascii c member)

theorem fault?_unicode (text : String) : Console.unicode.fault? text = none :=
  (fault?_eq_none_iff _ text).2 fun _ _ => rfl

theorem fault?_counted (before : String) (number : Nat) (behind : String)
    (first : (before.toList.all fun c => c.toNat < 0x80) = true)
    (last : (behind.toList.all fun c => c.toNat < 0x80) = true) :
    console.fault? (before ++ toString number ++ behind) = none := by
  refine fault?_of_ascii console fun c member => ?_
  rw [String.toList_append, String.toList_append, List.mem_append, List.mem_append] at member
  rcases member with (member | member) | member
  · simpa using List.all_eq_true.1 first c member
  · have digit := isDigit_of_mem_toString member
    simp only [Char.isDigit, Bool.and_eq_true, decide_eq_true_eq] at digit
    have small : c.val.toNat ≤ 57 := digit.2
    exact Nat.lt_of_le_of_lt small (by decide)
  · simpa using List.all_eq_true.1 last c member

theorem tell_of_shown {texts : List String} (shown : ∀ text ∈ texts, console.fault? text = none)
    (run : Run) :
    run.tell console texts = { run with output := run.output ++ String.join texts } := by
  induction texts generalizing run with
  | nil => simp [Run.tell]
  | cons text texts ih =>
    obtain ⟨first, rest⟩ := List.forall_mem_cons.1 shown
    rw [Run.tell, first]
    dsimp only
    rw [ih rest]
    simp [String.append_assoc]

theorem tell_of_hidden {texts : List String} {fault : PrintFault}
    (hidden : texts.findSome? console.fault? = some fault) (run : Run) :
    ∃ printed, run.tell console texts =
      { run with output := printed, exitCode := 1, escaped := some (.unprintable fault) } := by
  induction texts generalizing run with
  | nil => cases hidden
  | cons text texts ih =>
    rw [List.findSome?_cons] at hidden
    rw [Run.tell]
    split at hidden
    · rename_i first
      rw [first]
      cases hidden
      exact ⟨run.output, rfl⟩
    · rename_i first
      rw [first]
      exact ih hidden _

theorem tell_cases (texts : List String) :
    (∀ text ∈ texts, console.fault? text = none) ∨
      ∃ fault, texts.findSome? console.fault? = some fault := by
  cases found : texts.findSome? console.fault? with
  | none => exact .inl (List.findSome?_eq_none_iff.1 found)
  | some fault => exact .inr ⟨fault, rfl⟩

end Texts

end RecordProjection.Command
