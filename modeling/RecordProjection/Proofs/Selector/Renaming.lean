import Mathlib.Data.List.Basic
import RecordProjection.Directive.Reading

/-! The names in a selector. Two records are told apart by a selector only if it names one of them,
and the answers stay the same when the names in it are replaced together with the records. Checking
the names of a directive therefore checks all that it can tell apart. -/

namespace RecordProjection
open Directive

namespace Selector

mutual

def rename (replace : String → String) : Selector → Selector
  | .name text => .name (replace text)
  | .not operand => .not (operand.rename replace)
  | .any operands => .any (renameAll replace operands)
  | .all operands => .all (renameAll replace operands)

def renameAll (replace : String → String) : List Selector → List Selector
  | [] => []
  | operand :: rest => operand.rename replace :: renameAll replace rest

end

theorem renameAll_eq (replace : String → String) (operands : List Selector) :
    renameAll replace operands = operands.map (rename replace) := by
  induction operands with
  | nil => rfl
  | cons operand rest ih => rw [renameAll, ih, List.map_cons]

theorem rename_id (selector : Selector) : selector.rename id = selector := by
  induction selector using member_induction with
  | name text => rfl
  | not operand ih => rw [rename, ih]
  | any operands ih => rw [rename, renameAll_eq, List.map_congr_left ih, List.map_id']
  | all operands ih => rw [rename, renameAll_eq, List.map_congr_left ih, List.map_id']

theorem forall_operands {operands : List Selector} {agrees : String → Prop}
    {property : Selector → Prop}
    (each : ∀ operand ∈ operands, (∀ name ∈ operand.names, agrees name) → property operand)
    (same : ∀ name ∈ namesOfAll operands, agrees name) :
    ∀ operand ∈ operands, property operand := by
  rw [namesOfAll_eq] at same
  intro operand among
  exact each operand among fun name member => same name (List.mem_flatMap_of_mem among member)

theorem matches_rename {selector : Selector} {replace : String → String} {target other : String}
    (same : ∀ name ∈ selector.names, target = name ↔ other = replace name) :
    (selector.rename replace).matches? other = selector.matches? target := by
  induction selector using member_induction with
  | name text =>
    rw [rename, matches?, matches?, Bool.eq_iff_iff, beq_iff_eq, beq_iff_eq]
    exact (same text List.mem_cons_self).symm
  | not operand ih => rw [rename, matches?, matches?, ih same]
  | any operands ih =>
    have each := forall_operands ih same
    rw [rename, matches?, matches?, renameAll_eq, anyMatches_eq, anyMatches_eq, List.any_map,
      Bool.eq_iff_iff, List.any_eq_true, List.any_eq_true]
    exact exists_congr fun operand => and_congr_right fun among => by rw [← each operand among]; rfl
  | all operands ih =>
    have each := forall_operands ih same
    rw [rename, matches?, matches?, renameAll_eq, allMatch_eq, allMatch_eq, List.all_map,
      Bool.eq_iff_iff, List.all_eq_true, List.all_eq_true]
    exact forall₂_congr fun operand among => by rw [← each operand among]; rfl

theorem matches_of_not_mem {selector : Selector} {target other : String}
    (unnamed : target ∉ selector.names) (also : other ∉ selector.names) :
    selector.matches? target = selector.matches? other := by
  have same : ∀ name ∈ selector.names, other = name ↔ target = id name := by
    intro name member
    refine iff_of_false ?_ ?_
    · exact fun equal => also (equal ▸ member)
    · exact fun equal => unnamed (equal ▸ member)
  have renamed := matches_rename same
  rwa [rename_id] at renamed

theorem matches_rename_of_injective {replace : String → String}
    (injective : Function.Injective replace) (selector : Selector) (target : String) :
    (selector.rename replace).matches? (replace target) = selector.matches? target :=
  matches_rename fun _ _ => injective.eq_iff.symm

end Selector

namespace Membership
variable {membership : Membership} {target other : String}

theorem mem_names {name : String} :
    name ∈ membership.names ↔ ∃ entry ∈ membership, name ∈ entry.selector.names := by
  rw [names, List.mem_eraseDups, List.mem_flatMap]

theorem matches_of_not_mem (unnamed : target ∉ membership.names) (also : other ∉ membership.names) :
    ∀ entry ∈ membership, entry.selector.matches? target = entry.selector.matches? other :=
  fun entry member => Selector.matches_of_not_mem
    (fun named => unnamed (mem_names.2 ⟨entry, member, named⟩))
    fun named => also (mem_names.2 ⟨entry, member, named⟩)

theorem includes_of_not_mem (unnamed : target ∉ membership.names)
    (also : other ∉ membership.names) : membership.includes target = membership.includes other := by
  have each := matches_of_not_mem unnamed also
  rw [includes, includes, Bool.eq_iff_iff, List.any_eq_true, List.any_eq_true]
  exact exists_congr fun entry => and_congr_right fun member => by rw [each entry member]

theorem documentationFor_of_not_mem (unnamed : target ∉ membership.names)
    (also : other ∉ membership.names) :
    membership.documentationFor target = membership.documentationFor other := by
  have each := matches_of_not_mem unnamed also
  unfold documentationFor
  rw [← List.head?_filterMap, ← List.head?_filterMap]
  exact congrArg List.head? (List.filterMap_congr fun entry member => by rw [each entry member])

theorem includes_of_documentationFor {text : String}
    (documented : membership.documentationFor target = some text) :
    membership.includes target = true := by
  obtain ⟨entry, member, found⟩ := List.exists_of_findSome?_eq_some documented
  refine List.any_eq_true.2 ⟨entry, member, ?_⟩
  by_contra unmatched
  rw [if_neg unmatched] at found
  cases found

end Membership

/-- Whether a directive says the same of two records. -/
def FieldDirective.TreatsAlike (target other : String) : FieldDirective → Prop
  | .membership entries => entries.includes target = entries.includes other ∧
      entries.documentationFor target = entries.documentationFor other
  | .override added => added.selector.matches? target = added.selector.matches? other

theorem FieldDirective.treatsAlike_of_not_mem {directive : FieldDirective} {target other : String}
    (unnamed : target ∉ directive.names) (also : other ∉ directive.names) :
    directive.TreatsAlike target other := by
  cases directive with
  | membership entries =>
    exact ⟨Membership.includes_of_not_mem unnamed also,
      Membership.documentationFor_of_not_mem unnamed also⟩
  | override added =>
    rw [FieldDirective.names, Override.names, List.mem_eraseDups] at unnamed also
    exact Selector.matches_of_not_mem unnamed also

theorem unknownTarget_mem {declared : Declared} {name : String} {names : List String}
    (member : name ∈ names) (unknown : declared.isKnown name = false) (location : String) :
    .unknownTarget name location ∈ unknownTargets (some declared) location names :=
  List.mem_map_of_mem (List.mem_filter.2 ⟨member, by rw [unknown]; rfl⟩)

/-- Records that a directive does not name are alike to it, and it keeps its answers when the names
are replaced by others that are as different. So of two records that are not declared and that it
tells apart one is reported when its names are checked. What it documents it includes. -/
theorem unnamed_records_alike :
    (∀ (selector : Selector) (target other : String),
      target ∉ selector.names → other ∉ selector.names →
        selector.matches? target = selector.matches? other) ∧
    (∀ (membership : Membership) (target other : String),
      target ∉ membership.names → other ∉ membership.names →
        membership.includes target = membership.includes other ∧
          membership.documentationFor target = membership.documentationFor other) ∧
    (∀ replace : String → String, Function.Injective replace →
      ∀ (selector : Selector) (target : String),
        (selector.rename replace).matches? (replace target) = selector.matches? target) ∧
    (∀ (declared : Declared) (location : String) (directive : FieldDirective)
      (target other : String), declared.isKnown target = false → declared.isKnown other = false →
        ¬ directive.TreatsAlike target other → ∃ name, (name = target ∨ name = other) ∧
          .unknownTarget name location ∈
            unknownTargets (some declared) location directive.names) ∧
    ∀ (membership : Membership) (target : String),
      (membership.documentationFor target).isSome = true → membership.includes target = true := by
  refine ⟨?alike, ?members, ?renamed, ?checked, ?documented⟩
  case alike => exact fun selector target other => Selector.matches_of_not_mem
  case members =>
    intro membership target other unnamed also
    exact ⟨Membership.includes_of_not_mem unnamed also,
      Membership.documentationFor_of_not_mem unnamed also⟩
  case renamed => exact fun replace => Selector.matches_rename_of_injective
  case checked =>
    intro declared location directive target other unknown strange apart
    by_cases named : target ∈ directive.names
    · exact ⟨target, .inl rfl, unknownTarget_mem named unknown location⟩
    · have also : other ∈ directive.names := by
        by_contra unnamed
        exact apart (FieldDirective.treatsAlike_of_not_mem named unnamed)
      exact ⟨other, .inr rfl, unknownTarget_mem also strange location⟩
  case documented =>
    intro membership target documented
    obtain ⟨text, found⟩ := Option.isSome_iff_exists.1 documented
    exact Membership.includes_of_documentationFor found

def nestedSelector : Selector :=
  .not (.any [.name "A", .all [.name "B", .not (.any []), .all []], .any []])

theorem unnamed_records_alike_nested :
    let membership : Membership := [⟨.any [], some "none"⟩, ⟨nestedSelector, some "others"⟩]
    let declared : Declared := ⟨"R", ["A"], []⟩
    let replace : String → String := fun name => "x" ++ name
    ("C" ∉ nestedSelector.names ∧ "D" ∉ nestedSelector.names ∧
        nestedSelector.matches? "C" = nestedSelector.matches? "D") ∧
      (membership.includes "C" = membership.includes "D" ∧
        membership.documentationFor "C" = membership.documentationFor "D") ∧
      (Function.Injective replace ∧ nestedSelector.matches? "B" = false ∧
        (nestedSelector.rename replace).matches? "xB" = false) ∧
      (¬ (FieldDirective.membership membership).TreatsAlike "B" "C" ∧
        ∃ name, (name = "B" ∨ name = "C") ∧ .unknownTarget name "here" ∈
          unknownTargets (some declared) "here" membership.names) ∧
      (membership.documentationFor "C").isSome = true ∧ membership.includes "C" = true := by
  intro membership declared replace
  have injective : Function.Injective replace := fun one other same => by
    simpa [replace] using same
  have unnamed : "C" ∉ nestedSelector.names ∧ "D" ∉ nestedSelector.names := by decide
  have others : "C" ∉ membership.names ∧ "D" ∉ membership.names := by decide
  have apart : ¬ (FieldDirective.membership membership).TreatsAlike "B" "C" := by
    rintro ⟨same, -⟩
    revert same
    decide
  have documented : (membership.documentationFor "C").isSome = true := by decide
  have excluded : nestedSelector.matches? "B" = false := by decide
  obtain ⟨alike, members, renamed, checked, includes⟩ := unnamed_records_alike
  refine ⟨⟨unnamed.1, unnamed.2, alike _ _ _ unnamed.1 unnamed.2⟩, members _ _ _ others.1 others.2,
    ⟨injective, excluded, ?_⟩, ⟨apart, ?_⟩, documented, includes _ _ documented⟩
  · rw [← excluded]
    exact renamed replace injective nestedSelector "B"
  · exact checked declared "here" (.membership membership) "B" "C" (by decide) (by decide) apart

end RecordProjection
