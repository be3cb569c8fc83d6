import Mathlib.Algebra.Group.Int.Defs
import RecordProjection.Proofs.Registry.Preservation

/-! Which definitions come back from their elements. Writing leaves out what says nothing, and
reading checks names, types and indices and trims annotations; a definition is read as it was
written exactly if none of this touches it. -/

namespace RecordProjection
open Markup Text

theorem isIndex_iff {index : Int} (short : index < (10 ^ maxDigits : Nat)) :
    IsIndex index ↔ 0 ≤ index := by
  unfold IsIndex isConvertible
  rw [decide_eq_true_eq]
  generalize 10 ^ maxDigits = bound at short ⊢
  omega

theorem storable_plan_iff_of_short {plan : ConversionPlan}
    (short : ∀ index ∈ plan.indices, index < (10 ^ maxDigits : Nat)) :
    plan.Storable ↔
      plan.source ≠ "" ∧ plan.method ≠ "" ∧ ∀ index ∈ plan.indices, 0 ≤ index := by
  rw [storable_plan_iff]
  have indices : (∀ index ∈ plan.indices, IsIndex index) ↔ ∀ index ∈ plan.indices, 0 ≤ index :=
    forall₂_congr fun index member => isIndex_iff (short index member)
  rw [indices]

/-- A definition with short indices is read from its element just as it is, if and only if it has a
proper name, no empty bounds, a type for every field, no blanks around its annotations, and no plan
or one that names its source and its method and has natural indices. -/
theorem recordOf_element_eq_ok_iff (definition : Definition)
    (short : ∀ index ∈ definition.indices, index < (10 ^ maxDigits : Nat)) :
    Record.ofElement definition.element = .ok {
        name := definition.name
        kind := definition.kind
        generics := definition.generics
        annotations := definition.annotations
        fields := definition.fields
        conversion := definition.conversion } ↔
      isName definition.name = true ∧
        (∀ generic ∈ definition.generics, generic.bounds ≠ some "") ∧
        (∀ field ∈ definition.fields, field.type ≠ "") ∧
        (∀ note ∈ definition.allAnnotations, trim note = note) ∧
        ∀ plan, definition.conversion = some plan →
          plan.source ≠ "" ∧ plan.method ≠ "" ∧ ∀ index ∈ plan.indices, 0 ≤ index := by
  have plans : ∀ plan, definition.conversion = some plan →
      (plan.Storable ↔
        plan.source ≠ "" ∧ plan.method ≠ "" ∧ ∀ index ∈ plan.indices, 0 ≤ index) := by
    intro plan given
    rw [Definition.indices, given] at short
    exact storable_plan_iff_of_short short
  constructor
  · intro read
    -- Whatever was read can be stored, and a stored definition comes back with settled generics.
    have stored := storable_recordOf read
    have storable : definition.Storable :=
      ⟨stored.named, stored.typed, stored.trimmed, stored.conversion⟩
    have same := (recordOf_element storable).symm.trans read
    have generics : definition.generics.map Generic.settled = definition.generics :=
      congrArg Record.generics (Except.ok.inj same)
    exact ⟨storable.named, (settled_map_eq_self_iff _).1 generics, storable.typed,
      storable.trimmed, fun plan given => (plans plan given).1 (storable.conversion plan given)⟩
  · rintro ⟨named, bounded, typed, trimmed, conversion⟩
    have storable : definition.Storable :=
      ⟨named, typed, trimmed, fun plan given => (plans plan given).2 (conversion plan given)⟩
    rw [recordOf_element storable, Definition.record, (settled_map_eq_self_iff _).2 bounded]

/-- A projection whose parts are all at the edge of what comes back: a name with a line feed, a kind
and a name of a field without characters, white space inside annotations. -/
def edgeDefinition : Definition where
  name := "Cell\n"
  kind := ""
  generics := [⟨"", none⟩, ⟨"'a", some " "⟩]
  annotations := ["doc = \"a\r\n\tb\"", ""]
  fields := [⟨some "", "", " ", ["<derive>\n&"]⟩, ⟨none, "pub ", "&'a str", []⟩]
  sourceIndices := [3, 4]
  conversion := some ⟨" ", "into_row", [(0, 10 ^ 20)], [⟨7, "", ""⟩]⟩

def signedDefinition : Definition :=
  { edgeDefinition with conversion := some ⟨"Row", "into_row", [(0, -1)], []⟩ }

theorem recordOf_element_eq_ok_iff_edge :
    ((∀ index ∈ edgeDefinition.indices, index < (10 ^ maxDigits : Nat)) ∧
        Record.ofElement edgeDefinition.element = .ok {
          name := "Cell\n"
          kind := ""
          generics := [⟨"", none⟩, ⟨"'a", some " "⟩]
          annotations := ["doc = \"a\r\n\tb\"", ""]
          fields := [⟨some "", "", " ", ["<derive>\n&"]⟩, ⟨none, "pub ", "&'a str", []⟩]
          conversion := some ⟨" ", "into_row", [(0, 10 ^ 20)], [⟨7, "", ""⟩]⟩ }) ∧
      (∀ index ∈ signedDefinition.indices, index < (10 ^ maxDigits : Nat)) ∧
        Record.ofElement signedDefinition.element ≠ .ok {
          name := signedDefinition.name
          kind := signedDefinition.kind
          generics := signedDefinition.generics
          annotations := signedDefinition.annotations
          fields := signedDefinition.fields
          conversion := signedDefinition.conversion } := by
  have edge : ∀ index ∈ edgeDefinition.indices, index < (10 ^ maxDigits : Nat) := by
    decide +kernel
  have signed : ∀ index ∈ signedDefinition.indices, index < (10 ^ maxDigits : Nat) := by
    decide +kernel
  have plan : ∀ plan, edgeDefinition.conversion = some plan →
      plan.source ≠ "" ∧ plan.method ≠ "" ∧ ∀ index ∈ plan.indices, 0 ≤ index := by
    rintro _ ⟨⟩
    decide +kernel
  have back := (recordOf_element_eq_ok_iff edgeDefinition edge).2
    ⟨by decide, by decide, by decide, by decide +kernel, plan⟩
  refine ⟨⟨edge, back⟩, signed, fun read => ?_⟩
  obtain ⟨-, -, -, -, conversion⟩ := (recordOf_element_eq_ok_iff signedDefinition signed).1 read
  exact absurd (conversion _ rfl).2.2 (by decide)

end RecordProjection
