import Mathlib
import RecordProjection.Projection.Definition
import RecordProjection.Proofs.Text.Name

/-! Snake case. An identifier in snake case is the identifier in small letters with an underscore in
every place where one of its words ends and another one starts. Each of these underscores stands
between two letters or digits, so it is told apart from those that were there before; and nothing is
left to do in what has no capitals. -/

namespace RecordProjection
namespace Text

/-- Whether a word of a name ends at a place and another one starts behind it: with a capital that
follows a small letter or a digit, or with the last of several capitals, which a small letter
follows. -/
def isWordEnd (name : List Char) (place : Nat) : Bool :=
  name[place + 1]?.any Char.isUpper &&
    (name[place]?.any (fun c => c.isLower || c.isDigit) ||
      name[place]?.any Char.isUpper && name[place + 2]?.any Char.isLower)

/-- The characters of a text, and nothing (`none`) in the gap behind a place at which a word
ends. -/
def withGaps (ends : Nat → Bool) (text : List Char) : List (Option Char) :=
  text.zipIdx.flatMap fun (c, place) => if ends place then [some c, none] else [some c]

section Gaps
variable {ends : Nat → Bool} {text : List Char} {front back : List (Option Char)}

theorem withGaps_cons (ends : Nat → Bool) (c : Char) (rest : List Char) :
    withGaps ends (c :: rest) =
      (if ends 0 then [some c, none] else [some c]) ++
        withGaps (fun place => ends (place + 1)) rest := by
  rw [withGaps, List.zipIdx_cons', List.flatMap_cons, List.flatMap_map]
  rfl

theorem withGaps_map (ends : Nat → Bool) (f : Char → Char) (text : List Char) :
    withGaps ends (text.map f) = (withGaps ends text).map (Option.map f) := by
  induction text generalizing ends with
  | nil => rfl
  | cons c rest ih =>
    rw [List.map_cons, withGaps_cons, withGaps_cons, List.map_append, ih]
    split <;> rfl

theorem withGaps_none (never : ∀ place, ends place = false) :
    withGaps ends text = text.map some := by
  induction text generalizing ends with
  | nil => rfl
  | cons c rest ih =>
    rw [withGaps_cons, never, ih fun place => never (place + 1)]
    rfl

theorem reduceOption_withGaps (ends : Nat → Bool) (text : List Char) :
    (withGaps ends text).reduceOption = text := by
  induction text generalizing ends with
  | nil => rfl
  | cons c rest ih =>
    rw [withGaps_cons, List.reduceOption_append, ih]
    split <;> rfl

theorem head?_withGaps (ends : Nat → Bool) (text : List Char) :
    (withGaps ends text).head? = text.head?.map some := by
  cases text with
  | nil => rfl
  | cons c rest =>
    rw [withGaps_cons]
    split <;> rfl

theorem withGaps_append (ends : Nat → Bool) (first second : List Char) :
    withGaps ends (first ++ second) =
      withGaps ends first ++ withGaps (fun place => ends (first.length + place)) second := by
  rw [withGaps, List.zipIdx_append, List.flatMap_append, List.zipIdx_eq_map_add (l := second),
    List.flatMap_map, Nat.zero_add]
  rfl

theorem getLast?_withGaps (inside : ∀ place, ends place = true → place + 1 < text.length) :
    (withGaps ends text).getLast? = text.getLast?.map some := by
  rcases text.eq_nil_or_concat with rfl | ⟨front, last, rfl⟩
  · rfl
  · rw [List.concat_eq_append] at inside ⊢
    have open_ : ends (front.length + 0) = false := by
      by_contra ended
      have short := inside _ (Bool.eq_true_of_not_eq_false ended)
      rw [List.length_append, List.length_singleton] at short
      omega
    rw [withGaps_append, withGaps_cons, open_, List.getLast?_concat]
    exact List.getLast?_concat

theorem split_of_gap (split : withGaps ends text = front ++ none :: back) :
    ∃ first c rest, text = first ++ c :: rest ∧ ends first.length = true ∧
      front = withGaps ends first ++ [some c] ∧
      back = withGaps (fun place => ends (first.length + 1 + place)) rest := by
  induction text generalizing ends front with
  | nil => simp [withGaps] at split
  | cons c rest ih =>
    rw [withGaps_cons] at split
    rcases List.append_eq_append_iff.1 split with ⟨others, whole, behind⟩ | ⟨middle, own, behind⟩
    · obtain ⟨first, d, more, rfl, ended, rfl, rfl⟩ := ih behind
      refine ⟨c :: first, d, more, rfl, ended, ?_, ?_⟩
      · rw [whole, withGaps_cons, List.append_assoc]
      · congr 1
        funext place
        rw [List.length_cons]
        congr 1
        omega
    · cases middle with
      | nil =>
        -- No text starts with a gap.
        have first := congrArg List.head? behind
        rw [List.nil_append, head?_withGaps] at first
        cases rest <;> cases first
      | cons gap more =>
        obtain ⟨rfl, others⟩ := List.cons.inj behind
        obtain ⟨ended, rfl, rfl⟩ : ends 0 = true ∧ front = [some c] ∧ more = [] := by
          cases ended : ends 0 <;> rcases front with _ | ⟨first, _ | ⟨second, front⟩⟩ <;> simp_all
        refine ⟨[], c, rest, rfl, ended, rfl, ?_⟩
        rw [others]
        change withGaps _ rest = _
        congr 1
        funext place
        rw [List.length_nil, Nat.zero_add, Nat.add_comm]

end Gaps

section Separating
variable {name : List Char} {place : Nat}

theorem isWordEnd_cons (previous c : Char) (rest : List Char) :
    isWordEnd (previous :: c :: rest) 0 = startsWord previous c rest.head? := by
  rw [startsWord, List.head?_eq_getElem?]
  rfl

theorem separateWords_eq (name : List Char) :
    separateWords name = (withGaps (isWordEnd name) name).map (·.getD '_') := by
  fun_induction separateWords name with
  | case1 previous c rest starts ih =>
    rw [withGaps_cons, isWordEnd_cons, if_pos starts, ih]
    rfl
  | case2 previous c rest same ih =>
    rw [withGaps_cons, isWordEnd_cons, if_neg same, ih]
    rfl
  | case3 text short =>
    cases text with
    | nil => rfl
    | cons previous rest =>
      cases rest with
      | nil => rfl
      | cons c rest => exact absurd rfl (short previous c rest)

theorem chars_of_isWordEnd (ended : isWordEnd name place = true) :
    ∃ before after, name[place]? = some before ∧ name[place + 1]? = some after ∧
      before.isAlphanum = true ∧ after.isUpper = true := by
  simp only [isWordEnd, Bool.and_eq_true, Bool.or_eq_true, Option.any_eq_true] at ended
  obtain ⟨⟨after, follows, capital⟩, own⟩ := ended
  rcases own with ⟨before, stands, small⟩ | ⟨⟨before, stands, upper⟩, -⟩
  · refine ⟨before, after, stands, follows, ?_, capital⟩
    rcases small with lower | digit
    · simp [Char.isAlphanum, Char.isAlpha, lower]
    · simp [Char.isAlphanum, digit]
  · exact ⟨before, after, stands, follows, by simp [Char.isAlphanum, Char.isAlpha, upper], capital⟩

theorem isWordEnd_eq_false (small : ∀ c ∈ name, c.isUpper = false) (place : Nat) :
    isWordEnd name place = false := by
  by_contra ended
  obtain ⟨-, after, -, follows, -, capital⟩ :=
    chars_of_isWordEnd (Bool.eq_true_of_not_eq_false ended)
  rw [small after (List.mem_of_getElem? follows)] at capital
  cases capital

theorem isWordEnd_inside (ended : isWordEnd name place = true) : place + 1 < name.length := by
  obtain ⟨-, after, -, follows, -⟩ := chars_of_isWordEnd ended
  exact (List.getElem?_eq_some_iff.1 follows).1

end Separating

-- Only the whole library brings its lemmas on `Char.toLower` along.
section SmallLetters
variable {c : Char} {name : String}

theorem isAlphanum_toLower (c : Char) : c.toLower.isAlphanum = c.isAlphanum := by
  by_cases capital : c.isUpper = true
  · have small : c.toLower.isAlpha = true := by
      rw [Char.isAlpha_toLower_eq_isAlpha, Char.isAlpha, capital, Bool.true_or]
    rw [Char.isAlphanum, small, Char.isAlphanum, Char.isAlpha, capital]
    rfl
  · rw [Char.toLower_eq_of_not_isUpper capital]

theorem isIdentChar_toLower (ident : isIdentChar c = true) : isIdentChar c.toLower = true := by
  rw [isIdentChar, Bool.or_eq_true, decide_eq_true_eq] at ident ⊢
  rcases ident with alphanumeric | rfl
  · exact .inl ((isAlphanum_toLower c).trans alphanumeric)
  · exact .inr rfl

theorem isIdentifier_append {first second : List Char} (identifier : isIdentifier first = true)
    (letters : ∀ c ∈ second, isIdentChar c = true) : isIdentifier (first ++ second) = true := by
  cases first with
  | nil => cases identifier
  | cons c rest =>
    rw [isIdentifier, Bool.and_eq_true, List.all_eq_true] at identifier
    rw [List.cons_append, isIdentifier, Bool.and_eq_true, List.all_eq_true]
    exact ⟨identifier.1, List.forall_mem_append.2 ⟨identifier.2, letters⟩⟩

theorem isCommon_of_isIdentifier (identifier : isIdentifier name.toList = true) :
    IsCommon name.toList := by
  intro c member
  have range := range_of_isIdentChar (isIdentChar_of_mem_isIdentifier identifier c member)
  omega

theorem toList_lower (common : IsCommon name.toList) :
    (lower name).toList = name.toList.map Char.toLower := by
  rw [lower, String.toList_ofList, lowerAfter_eq_map common]

theorem toList_snakeCase (common : IsCommon name.toList) :
    (snakeCase name).toList =
      (withGaps (isWordEnd name.toList) (lower name).toList).map (·.getD '_') := by
  have still : IsCommon (separateWords name.toList) := by
    intro c member
    rcases mem_separateWords member with rfl | own
    · decide
    · exact common c own
  rw [snakeCase, lower, String.toList_ofList, String.toList_ofList, lowerAfter_eq_map still,
    separateWords_eq, toList_lower common, withGaps_map, List.map_map, List.map_map]
  refine List.map_congr_left fun gap _ => ?_
  cases gap <;> rfl

theorem isWordEnd_inside_lower (common : IsCommon name.toList) :
    ∀ place, isWordEnd name.toList place = true → place + 1 < (lower name).toList.length := by
  intro place ended
  rw [toList_lower common, List.length_map]
  exact isWordEnd_inside ended

theorem alphanum_of_gap (common : IsCommon name.toList) {front back : List (Option Char)}
    (split : withGaps (isWordEnd name.toList) (lower name).toList = front ++ none :: back) :
    ∃ before after, front.getLast? = some (some before) ∧ back.head? = some (some after) ∧
      before.isAlphanum = true ∧ after.isAlphanum = true := by
  obtain ⟨first, c, rest, small, ended, rfl, rfl⟩ := split_of_gap split
  obtain ⟨before, after, stands, follows, alphanumeric, capital⟩ := chars_of_isWordEnd ended
  rw [toList_lower common] at small
  have own : some before.toLower = some c := calc
    some before.toLower = (name.toList.map Char.toLower)[first.length]? := by
      rw [List.getElem?_map, stands]
      rfl
    _ = some c := by
      rw [small, List.getElem?_append_right (Nat.le_refl _), Nat.sub_self]
      rfl
  have next : some after.toLower = rest.head? := calc
    some after.toLower = (name.toList.map Char.toLower)[first.length + 1]? := by
      rw [List.getElem?_map, follows]
      rfl
    _ = rest.head? := by
      rw [small, List.getElem?_append_right (Nat.le_add_right _ 1), Nat.add_sub_cancel_left,
        List.head?_eq_getElem?]
      rfl
  obtain rfl := Option.some.inj own
  refine ⟨before.toLower, after.toLower, List.getLast?_concat, ?_, ?_, ?_⟩
  · rw [head?_withGaps, ← next]
    rfl
  · rw [isAlphanum_toLower, alphanumeric]
  · rw [isAlphanum_toLower, Char.isAlphanum, Char.isAlpha, capital]
    rfl

/-- Two underscores that stand side by side did so before. -/
theorem doubled_of_snakeCase (common : IsCommon name.toList)
    (doubled : ['_', '_'] <:+: (snakeCase name).toList) : ['_', '_'] <:+: (lower name).toList := by
  have lone : '_'.isAlphanum = false := by decide
  obtain ⟨front, back, whole⟩ := doubled
  rw [List.append_assoc, toList_snakeCase common] at whole
  obtain ⟨before, pair, split, -, rest⟩ := List.map_eq_append_iff.1 whole.symm
  obtain ⟨first, others, rfl, one, rest⟩ := List.map_eq_cons_iff.1 rest
  obtain ⟨second, behind, rfl, other, -⟩ := List.map_eq_cons_iff.1 rest
  cases first with
  | none =>
    obtain ⟨-, after, -, follows, -, alphanumeric⟩ := alphanum_of_gap common split
    cases follows
    rw [show after = '_' from other, lone] at alphanumeric
    cases alphanumeric
  | some c =>
    cases second with
    | none =>
      rw [List.append_cons] at split
      obtain ⟨letter, -, stands, -, alphanumeric, -⟩ := alphanum_of_gap common split
      rw [List.getLast?_concat, Option.some.injEq, Option.some.injEq] at stands
      rw [← stands, show c = '_' from one, lone] at alphanumeric
      cases alphanumeric
    | some d =>
      refine ⟨before.reduceOption, behind.reduceOption, ?_⟩
      rw [← reduceOption_withGaps (isWordEnd name.toList) (lower name).toList, split,
        List.reduceOption_append, List.reduceOption_cons_of_some, List.reduceOption_cons_of_some,
        show c = '_' from one, show d = '_' from other, List.append_assoc]
      rfl

theorem mem_snakeCase_of_isIdentifier (identifier : isIdentifier name.toList = true)
    (member : c ∈ (snakeCase name).toList) : isIdentChar c = true ∧ c.isUpper = false := by
  have common := isCommon_of_isIdentifier identifier
  rw [toList_snakeCase common] at member
  obtain ⟨gap, among, rfl⟩ := List.mem_map.1 member
  cases gap with
  | none => exact ⟨rfl, rfl⟩
  | some d =>
    have own : d ∈ (lower name).toList := by
      rw [← reduceOption_withGaps (isWordEnd name.toList) (lower name).toList]
      exact List.reduceOption_mem_iff.2 among
    rw [toList_lower common] at own
    obtain ⟨letter, spelled, rfl⟩ := List.mem_map.1 own
    exact ⟨isIdentChar_toLower (isIdentChar_of_mem_isIdentifier identifier letter spelled),
      Char.isUpper_toLower_eq_false letter⟩

theorem snakeCase_eq_self (common : IsCommon name.toList)
    (small : ∀ c ∈ name.toList, c.isUpper = false) : snakeCase name = name := by
  have lowered : name.toList.map Char.toLower = name.toList := by
    refine (List.map_congr_left fun c member => ?_).trans (List.map_id _)
    exact Char.toLower_eq_of_not_isUpper (Bool.eq_false_iff.1 (small c member))
  rw [← String.toList_inj, toList_snakeCase common, toList_lower common, lowered,
    withGaps_none (isWordEnd_eq_false small), List.map_map]
  exact List.map_id _

end SmallLetters

/-- An identifier in snake case is the identifier in small letters with an underscore wherever a
word ends, and only there. None of these underscores is the first or the last character or stands
beside another one, and they can be taken out again. No capitals are left, so writing it in snake
case once more changes nothing; and it makes an identifier of the name of a conversion. -/
theorem snakeCase_of_isIdentifier {name : String} (identifier : isIdentifier name.toList = true) :
    let small := (lower name).toList
    let gaps := withGaps (isWordEnd name.toList) small
    (snakeCase name).toList = gaps.map (·.getD '_') ∧
      (∀ front back, gaps = front ++ none :: back → ∃ before after,
        front.getLast? = some (some before) ∧ back.head? = some (some after) ∧
          before.isAlphanum = true ∧ after.isAlphanum = true) ∧
      ((snakeCase name).toList.head? = small.head? ∧
        (snakeCase name).toList.getLast? = small.getLast? ∧
        (['_', '_'] <:+: (snakeCase name).toList → ['_', '_'] <:+: small)) ∧
      gaps.reduceOption = small ∧
      (∀ c ∈ (snakeCase name).toList, c.isUpper = false) ∧
      isIdentifier (conversionMethod name).toList = true ∧
      snakeCase (snakeCase name) = snakeCase name := by
  intro small gaps
  have common := isCommon_of_isIdentifier identifier
  have written := toList_snakeCase common
  have chars : ∀ c ∈ (snakeCase name).toList, isIdentChar c = true ∧ c.isUpper = false :=
    fun c => mem_snakeCase_of_isIdentifier identifier
  refine ⟨written, fun front back => alphanum_of_gap common,
    ⟨?_, ?_, doubled_of_snakeCase common⟩, reduceOption_withGaps _ _, fun c member =>
      (chars c member).2, ?_, ?_⟩
  · rw [written, List.head?_map, head?_withGaps, Option.map_map]
    exact Option.map_id'
  · rw [written, List.getLast?_map, getLast?_withGaps (isWordEnd_inside_lower common),
      Option.map_map]
    exact Option.map_id'
  · rw [conversionMethod, String.toList_append]
    exact isIdentifier_append (by decide) fun c member => (chars c member).1
  · refine snakeCase_eq_self (fun c member => ?_) fun c member => (chars c member).2
    have range := range_of_isIdentChar (chars c member).1
    omega

theorem snakeCase_of_isIdentifier_acronyms :
    isIdentifier "_HTTPServer__V2Id_".toList = true ∧
      snakeCase "_HTTPServer__V2Id_" = "_http_server__v2_id_" ∧
      isIdentifier (conversionMethod "_HTTPServer__V2Id_").toList = true ∧
      snakeCase "_http_server__v2_id_" = "_http_server__v2_id_" := by
  have identifier : isIdentifier "_HTTPServer__V2Id_".toList = true := by decide
  have written : snakeCase "_HTTPServer__V2Id_" = "_http_server__v2_id_" := by cbv
  obtain ⟨-, -, -, -, -, method, again⟩ := snakeCase_of_isIdentifier identifier
  rw [written] at again
  exact ⟨identifier, written, method, again⟩

end Text
end RecordProjection
