import Mathlib.Algebra.Group.Nat.Defs
import Mathlib.Data.List.TakeWhile
import Mathlib.Tactic.ByContra
import RecordProjection.Text.Numeral

/-! Numerals. Whatever is read as a number has at most as many digits as are converted, and the
digits of every number that small are read back as the number. Groups of digits keep the digits. -/

namespace RecordProjection.Text

theorem decimalValue?_of_isDigit {c : Char} (digit : c.isDigit = true) :
    decimalValue? c = some (c.toNat - '0'.toNat) := by
  have range : 0x30 ≤ c.toNat ∧ c.toNat < 0x30 + 10 := by
    simp only [Char.isDigit, Bool.and_eq_true, decide_eq_true_eq, ge_iff_le,
      UInt32.le_iff_toNat_le] at digit
    simp at digit
    omega
  unfold decimalValue? digitRuns
  rw [List.find?_cons_of_pos (by simpa using range)]
  rfl

theorem readDigits_of_isDigit {digits : List Char} (all : ∀ c ∈ digits, c.isDigit = true)
    (value : Nat) : readDigits value digits = some (Nat.ofDigitChars 10 digits value) := by
  induction digits generalizing value with
  | nil => rw [readDigits, Nat.ofDigitChars_nil]
  | cons c rest ih =>
    obtain ⟨first, others⟩ := List.forall_mem_cons.1 all
    rw [readDigits, decimalValue?_of_isDigit first, Nat.ofDigitChars_cons]
    exact ih others _

theorem isDecimal_of_readDigits {digits : List Char} {value number : Nat}
    (read : readDigits value digits = some number) : ∀ c ∈ digits, isDecimal c = true := by
  induction digits generalizing value with
  | nil => exact List.forall_mem_nil _
  | cons c rest ih =>
    unfold readDigits at read
    split at read
    · rename_i found
      exact List.forall_mem_cons.2 ⟨by rw [isDecimal, found]; rfl, ih read⟩
    · cases read

theorem readDigits_lt {digits : List Char} {value number : Nat}
    (read : readDigits value digits = some number) :
    number < (value + 1) * 10 ^ digits.length := by
  induction digits generalizing value with
  | nil =>
    cases read
    simp
  | cons c rest ih =>
    unfold readDigits at read
    split at read
    · rename_i digit found
      have small := decimalValue?_lt found
      calc number < (10 * value + digit + 1) * 10 ^ rest.length := ih read
        _ ≤ ((value + 1) * 10) * 10 ^ rest.length := Nat.mul_le_mul_right _ (by omega)
        _ = (value + 1) * 10 ^ (c :: rest).length := by
          rw [List.length_cons, Nat.pow_succ', Nat.mul_assoc]
    · cases read

structure IsNumeral (text : String) : Prop where
  present : text ≠ ""
  decimal : ∀ c ∈ text.toList, isDecimal c = true
  short : text.length ≤ maxDigits

theorem readNumeral_eq_ok {text : String} {number : Nat} (read : readNumeral text = .ok number) :
    IsNumeral text ∧ readDigits 0 text.toList = some number := by
  unfold readNumeral at read
  dsimp only at read
  split at read
  · cases read
  · rename_i short
    split at read
    · cases read
    · rename_i c rest spelled
      split at read
      · rename_i value found
        cases read
        rw [← spelled] at found
        have all := isDecimal_of_readDigits found
        rw [List.takeWhile_eq_self_iff.2 all, Nat.not_lt, String.length_toList] at short
        refine ⟨⟨?_, all, short⟩, found⟩
        rintro rfl
        cases spelled
      · cases read

theorem readNumeral_lt {text : String} {number : Nat} (read : readNumeral text = .ok number) :
    number < 10 ^ maxDigits := by
  obtain ⟨numeral, digits⟩ := readNumeral_eq_ok read
  calc number < (0 + 1) * 10 ^ text.toList.length := readDigits_lt digits
    _ = 10 ^ text.length := by rw [Nat.zero_add, Nat.one_mul, String.length_toList]
    _ ≤ 10 ^ maxDigits := Nat.pow_le_pow_right (by decide) numeral.short

theorem isDigit_of_mem_toString {number : Nat} {c : Char} (member : c ∈ (toString number).toList) :
    c.isDigit = true := by
  rw [Nat.toString_eq_repr, Nat.toList_repr] at member
  exact Nat.isDigit_of_mem_toDigits (by decide) (by decide) member

theorem readDigits_toString (number : Nat) :
    readDigits 0 (toString number).toList = some number := by
  rw [readDigits_of_isDigit fun c => isDigit_of_mem_toString, Nat.toString_eq_repr,
    Nat.toList_repr, Nat.ofDigitChars_ten_toDigits]

theorem natural_text_injective : Function.Injective (toString : Nat → String) := by
  intro first second same
  have read := readDigits_toString first
  rw [same, readDigits_toString second] at read
  exact (Option.some.inj read).symm

theorem integer_text_injective : Function.Injective (toString : Int → String) := by
  have unsigned (number less : Nat) : toString number ≠ "-" ++ toString less := by
    intro same
    have sign : '-' ∈ (toString number).toList := by
      rw [same, String.toList_append]
      exact List.mem_append_left _ (List.mem_singleton_self _)
    exact absurd (isDigit_of_mem_toString sign) (by decide)
  rintro (first | first) (second | second) same
  · exact congrArg Int.ofNat (natural_text_injective same)
  · exact absurd same (unsigned first (second + 1))
  · exact absurd same.symm (unsigned second (first + 1))
  · have larger := natural_text_injective ((String.append_right_inj "-").1 same)
    exact congrArg Int.negSucc (Nat.succ.inj larger)

theorem readNumeral_toString {number : Nat} (small : number < 10 ^ maxDigits) :
    readNumeral (toString number) = .ok number := by
  have digits : ∀ c ∈ Nat.toDigits 10 number, c.isDigit = true := fun c member =>
    Nat.isDigit_of_mem_toDigits (by decide) (by decide) member
  have all : ∀ c ∈ Nat.toDigits 10 number, isDecimal c = true := fun c member => by
    rw [isDecimal, decimalValue?_of_isDigit (digits c member)]
    rfl
  have short : (Nat.toDigits 10 number).length ≤ maxDigits :=
    (Nat.length_toDigits_le_iff (by decide) (by decide)).2 small
  have read := readDigits_toString number
  rw [Nat.toString_eq_repr, Nat.toList_repr] at read
  unfold readNumeral
  rw [Nat.toString_eq_repr, Nat.toList_repr, List.takeWhile_eq_self_iff.2 all]
  dsimp only
  rw [if_neg (Nat.not_lt.2 short)]
  cases spelled : Nat.toDigits 10 number with
  | nil =>
    have some_digit := Nat.length_toDigits_pos (b := 10) (n := number)
    rw [spelled] at some_digit
    cases some_digit
  | cons c rest =>
    rw [spelled] at read
    dsimp only
    rw [read]

theorem exists_readDigits {digits : List Char} (all : ∀ c ∈ digits, isDecimal c = true)
    (value : Nat) : ∃ number, readDigits value digits = some number := by
  induction digits generalizing value with
  | nil => exact ⟨value, rfl⟩
  | cons c rest ih =>
    obtain ⟨first, others⟩ := List.forall_mem_cons.1 all
    obtain ⟨digit, found⟩ := Option.isSome_iff_exists.1 first
    obtain ⟨number, read⟩ := ih others (10 * value + digit)
    exact ⟨number, by rw [readDigits, found, ← read]⟩

theorem readNumeral_eq_ok_iff (text : String) :
    (∃ number, readNumeral text = .ok number) ↔ IsNumeral text := by
  refine ⟨fun ⟨_, read⟩ => (readNumeral_eq_ok read).1, fun ⟨present, all, short⟩ => ?_⟩
  obtain ⟨number, read⟩ := exists_readDigits all 0
  obtain ⟨c, rest, spelled⟩ := List.exists_cons_of_ne_nil
    fun none => present (String.toList_eq_nil_iff.1 none)
  refine ⟨number, ?_⟩
  unfold readNumeral
  dsimp only
  rw [List.takeWhile_eq_self_iff.2 all, String.length_toList, if_neg (Nat.not_lt.2 short)]
  rw [spelled] at read ⊢
  dsimp only
  rw [read]

/-- A numeral with a comma before each three digits, counted from the right. -/
inductive IsGrouped : List Char → List Char → Prop
  | first {digits : List Char} (present : digits ≠ []) (short : digits.length ≤ 3) :
      IsGrouped digits digits
  | next {digits text group : List Char} (front : IsGrouped digits text)
      (three : group.length = 3) : IsGrouped (digits ++ group) (text ++ ',' :: group)

theorem isGrouped_groupThousands (digits : List Char) (present : digits ≠ []) :
    IsGrouped digits.reverse (groupThousands digits).reverse := by
  fun_induction groupThousands digits with
  | case1 a b c d rest ih =>
    have three : [c, b, a].length = 3 := rfl
    simpa using IsGrouped.next (ih (List.cons_ne_nil d rest)) three
  | case2 digits few =>
    refine .first (mt List.reverse_eq_nil_iff.1 present) ?_
    rw [List.length_reverse]
    by_contra long
    match digits with
    | [] | [_] | [_, _] | [_, _, _] => simp at long
    | a :: b :: c :: d :: rest => exact few a b c d rest rfl

theorem isGrouped_withThousands (number : Nat) :
    IsGrouped (toString number).toList (withThousands number).toList := by
  have natural : ¬ (number : Int) < 0 := by omega
  have present : (toString number).toList ≠ [] := by
    rw [Nat.toString_eq_repr, Nat.toList_repr]
    exact List.ne_nil_of_length_pos Nat.length_toDigits_pos
  have grouped := isGrouped_groupThousands (toString number).toList.reverse
    (mt List.reverse_eq_nil_iff.1 present)
  rw [List.reverse_reverse] at grouped
  unfold withThousands
  dsimp only
  rw [if_neg natural, String.toList_ofList, Int.natAbs_natCast]
  exact grouped

end RecordProjection.Text
