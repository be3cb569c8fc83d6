import RecordProjection.Proofs.Text.Blank
import RecordProjection.Text.Identifier
import RecordProjection.Text.Case

/-! The characters of names. Names are made of common letters, digits and underscores, none of which
is blank, and of one line feed at most; their small letters are common ones again. -/

namespace RecordProjection.Text

theorem range_of_isAlpha {c : Char} (alphabetic : c.isAlpha = true) :
    0x41 ≤ c.toNat ∧ c.toNat ≤ 0x7A := by
  have same : c.toNat = c.val.toNat := rfl
  change (c.isUpper || c.isLower) = true at alphabetic
  rw [Bool.or_eq_true] at alphabetic
  rcases alphabetic with upper | lower
  · obtain ⟨low, high⟩ := of_decide_eq_true upper
    have first : 0x41 ≤ c.val.toNat := UInt32.le_iff_toNat_le.1 low
    have last : c.val.toNat ≤ 0x5A := UInt32.le_iff_toNat_le.1 high
    omega
  · obtain ⟨low, high⟩ := Bool.and_eq_true_iff.1 lower
    have first : 0x61 ≤ c.val.toNat := UInt32.le_iff_toNat_le.1 (of_decide_eq_true low)
    have last : c.val.toNat ≤ 0x7A := UInt32.le_iff_toNat_le.1 (of_decide_eq_true high)
    omega

theorem range_of_isAlphanum {c : Char} (alphanumeric : c.isAlphanum = true) :
    0x30 ≤ c.toNat ∧ c.toNat ≤ 0x7A := by
  change (c.isAlpha || c.isDigit) = true at alphanumeric
  rw [Bool.or_eq_true] at alphanumeric
  rcases alphanumeric with alphabetic | digit
  · have range := range_of_isAlpha alphabetic
    omega
  · obtain ⟨low, high⟩ := Char.isDigit_iff_toNat.1 digit
    have first : '0'.toNat = 0x30 := rfl
    have last : '9'.toNat = 0x39 := rfl
    omega

theorem range_of_isIdentChar {c : Char} (ident : isIdentChar c = true) :
    0x30 ≤ c.toNat ∧ c.toNat ≤ 0x7A := by
  simp only [isIdentChar, Bool.or_eq_true, decide_eq_true_eq] at ident
  rcases ident with alphanumeric | rfl
  · exact range_of_isAlphanum alphanumeric
  · decide

theorem range_toLower {c : Char} (ident : isIdentChar c = true) :
    0x30 ≤ c.toLower.toNat ∧ c.toLower.toNat ≤ 0x7A := by
  have range := range_of_isIdentChar ident
  unfold Char.toLower
  split
  · rename_i capital
    simp only [UInt32.le_iff_toNat_le, ge_iff_le] at capital
    have same : c.toNat = c.val.toNat := rfl
    have first : 'A'.val.toNat = 65 := rfl
    have last : 'Z'.val.toNat = 90 := rfl
    have shift : ('a'.val - 'A'.val).toNat = 32 := rfl
    rw [Char.toNat, UInt32.toNat_add, shift]
    omega
  · exact range

theorem isBlank_of_isIdentChar {c : Char} (ident : isIdentChar c = true) : isBlank c = false := by
  have range := range_of_isIdentChar ident
  simp [isBlank, blanks, Ranges.contains]
  omega

theorem isIdentChar_of_isIdentStart {c : Char} (start : isIdentStart c = true) :
    isIdentChar c = true := by
  simp only [isIdentStart, isIdentChar, Char.isAlphanum, Bool.or_eq_true, decide_eq_true_eq]
    at start ⊢
  exact start.imp_left .inl

theorem isIdentChar_of_mem_isIdentifier {text : List Char} (identifier : isIdentifier text = true) :
    ∀ c ∈ text, isIdentChar c = true := by
  cases text with
  | nil => exact List.forall_mem_nil _
  | cons first rest =>
    simp only [isIdentifier, Bool.and_eq_true, List.all_eq_true] at identifier
    exact List.forall_mem_cons.2 ⟨isIdentChar_of_isIdentStart identifier.1, identifier.2⟩

theorem isName_iff (name : String) :
    isName name = true ↔ isIdentifier name.toList = true ∨
      ∃ line : String, isIdentifier line.toList = true ∧ name = line ++ "\n" := by
  have lineFeed : isIdentChar '\n' = false := by decide
  unfold isName chompNewline
  split
  · rename_i last
    obtain ⟨front, whole⟩ := List.getLast?_eq_some_iff.1 last
    rw [whole, List.dropLast_concat]
    constructor
    · intro identifier
      refine .inr ⟨.ofList front, by rwa [String.toList_ofList], String.toList_inj.1 ?_⟩
      rw [whole, String.toList_append, String.toList_ofList]
      rfl
    · rintro (identifier | ⟨line, identifier, rfl⟩)
      · have inside := isIdentChar_of_mem_isIdentifier identifier '\n' (by simp)
        rw [lineFeed] at inside
        cases inside
      · rw [String.toList_append] at whole
        rwa [← (List.append_inj' whole rfl).1]
  · rename_i unended
    refine ⟨.inl, ?_⟩
    rintro (identifier | ⟨line, -, rfl⟩)
    · exact identifier
    · exact absurd (by rw [String.toList_append]; exact List.getLast?_concat) unended

theorem isIdentChar_of_mem_isName {name : String} (named : isName name = true) {c : Char}
    (member : c ∈ name.toList) : isIdentChar c = true ∨ c = '\n' := by
  rcases (isName_iff name).1 named with identifier | ⟨line, identifier, rfl⟩
  · exact .inl (isIdentChar_of_mem_isIdentifier identifier c member)
  · rw [String.toList_append] at member
    exact (List.mem_append.1 member).imp (isIdentChar_of_mem_isIdentifier identifier c)
      List.mem_singleton.1

theorem ne_empty_of_isName {name : String} (named : isName name = true) : name ≠ "" := by
  rintro rfl
  revert named
  decide

def IsCommon (text : List Char) : Prop := ∀ c ∈ text, c.toNat < 0x80

theorem lowerAfter_eq_map {text : List Char} (common : IsCommon text) (before : List Char) :
    lowerAfter before text = text.map Char.toLower := by
  induction text generalizing before with
  | nil => rfl
  | cons c rest ih =>
    obtain ⟨own, others⟩ := List.forall_mem_cons.1 common
    have sigma : c ≠ capitalSigma := by
      rintro rfl
      revert own
      decide
    have dotted : c ≠ dottedCapitalI := by
      rintro rfl
      revert own
      decide
    rw [lowerAfter, if_neg sigma, if_neg dotted, lowerChar, if_pos own, ih others]
    rfl

theorem mem_separateWords {text : List Char} {c : Char} (member : c ∈ separateWords text) :
    c = '_' ∨ c ∈ text := by
  fun_induction separateWords text with
  | case1 previous d rest starts ih =>
    rcases List.mem_cons.1 member with rfl | later
    · exact .inr List.mem_cons_self
    · rcases List.mem_cons.1 later with rfl | rest
      · exact .inl rfl
      · exact (ih rest).imp_right (List.mem_cons_of_mem _)
  | case2 previous d rest starts ih =>
    rcases List.mem_cons.1 member with rfl | later
    · exact .inr List.mem_cons_self
    · exact (ih later).imp_right (List.mem_cons_of_mem _)
  | case3 text => exact .inr member

theorem mem_snakeCase {name : String} (named : isName name = true) {c : Char}
    (member : c ∈ (snakeCase name).toList) :
    ∃ d, c = d.toLower ∧ (isIdentChar d = true ∨ d = '\n') := by
  have each : ∀ d ∈ separateWords name.toList, isIdentChar d = true ∨ d = '\n' := by
    intro d among
    rcases mem_separateWords among with rfl | own
    · exact .inl rfl
    · exact isIdentChar_of_mem_isName named own
  have common : IsCommon (separateWords name.toList) := by
    intro d among
    rcases each d among with ident | rfl
    · have range := range_of_isIdentChar ident
      omega
    · decide
  rw [snakeCase, lower, String.toList_ofList, String.toList_ofList, lowerAfter_eq_map common]
    at member
  obtain ⟨d, among, rfl⟩ := List.mem_map.1 member
  exact ⟨d, rfl, each d among⟩

end RecordProjection.Text
