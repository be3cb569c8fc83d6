import RecordProjection.Projection.Expansion
import RecordProjection.Proofs.Projection.Origin

/-! Soundness of what is emitted. A definition is sound for a record if its fields are fields of the
record in their order, its generic parameters cover what the fields use, and no directive is left.
This is what the check before emission decides, and every record without diagnostics passes it. -/

namespace RecordProjection
open Directive

structure Definition.Sound (definition : Definition) (record : Record) : Prop where
  counts : definition.sourceIndices.length = definition.fields.length
  ordered : definition.sourceIndices.Pairwise (· < ·)
  /-- Every index is a position of the record that holds a field of that name and type. -/
  agrees : ∀ pair ∈ definition.sourceIndices.zip definition.fields,
    ∃ (position : Nat) (original : Field), pair.1 = position ∧
      record.fields[position]? = some original ∧
      pair.2.name = original.name ∧ pair.2.type = original.type
  covers : ∀ generic ∈ usedGenerics record.generics (definition.fields.map Field.type),
    generic.name ∈ definition.generics.map Generic.name
  undirected : ∀ note ∈ definition.allAnnotations, isDirective note = false

theorem isIncreasing_iff (indices : List Int) :
    isIncreasing indices = true ↔ indices.Pairwise (· < ·) := by
  induction indices with
  | nil => simp [isIncreasing]
  | cons first rest ih =>
    cases rest with
    | nil => simp [isIncreasing]
    | cons second rest =>
      rw [isIncreasing, Bool.and_eq_true, decide_eq_true_eq, ih]
      constructor
      · rintro ⟨below, ordered⟩
        refine .cons (fun index member => ?_) ordered
        rcases List.mem_cons.1 member with rfl | later
        · exact below
        · exact Int.lt_trans below (List.rel_of_pairwise_cons ordered later)
      · intro ordered
        exact ⟨List.rel_of_pairwise_cons ordered List.mem_cons_self, ordered.of_cons⟩

theorem fieldAt?_eq_some_iff (record : Record) (index : Int) (original : Field) :
    record.fieldAt? index = some original ↔
      ∃ position : Nat, index = position ∧ record.fields[position]? = some original := by
  unfold Record.fieldAt?
  split
  · rename_i negative
    constructor
    · intro found
      cases found
    · rintro ⟨position, rfl, -⟩
      omega
  · rename_i natural
    constructor
    · exact fun found => ⟨index.toNat, by omega, found⟩
    · rintro ⟨position, rfl, found⟩
      simpa using found

theorem fieldFault?_eq_none_iff (definition : Definition) (record : Record) (index : Int)
    (field : Field) :
    definition.fieldFault? record index field = none ↔
      ∃ (position : Nat) (original : Field), index = position ∧
        record.fields[position]? = some original ∧
        field.name = original.name ∧ field.type = original.type := by
  unfold Definition.fieldFault?
  cases found : record.fieldAt? index with
  | none =>
    simp only [reduceCtorEq, false_iff]
    rintro ⟨position, original, place, stands, -⟩
    rw [(fieldAt?_eq_some_iff record index original).2 ⟨position, place, stands⟩] at found
    cases found
  | some original =>
    obtain ⟨position, place, stands⟩ := (fieldAt?_eq_some_iff record index original).1 found
    simp only [Bool.and_eq_true, decide_eq_true_eq, ite_eq_left_iff, reduceCtorEq, imp_false,
      Decidable.not_not]
    constructor
    · exact fun same => ⟨position, original, place, stands, same⟩
    · rintro ⟨other, field', place', stands', same⟩
      obtain rfl : other = position := by omega
      rw [stands, Option.some.injEq] at stands'
      exact stands' ▸ same

theorem fault?_eq_none_iff (definition : Definition) (record : Record) :
    definition.fault? record = none ↔ definition.Sound record := by
  unfold Definition.fault?
  dsimp only
  by_cases counts : definition.sourceIndices.length = definition.fields.length
  · by_cases ordered : isIncreasing definition.sourceIndices = true
    · simp only [counts, ne_eq, not_true_eq_false, ↓reduceIte, ordered, Bool.not_true,
        Bool.false_eq_true, Option.orElse_eq_orElse, Option.orElse_eq_or, Option.or_eq_none_iff,
        List.findSome?_eq_none_iff, Option.map_eq_none_iff, List.find?_eq_none,
        fieldFault?_eq_none_iff, Bool.not_eq_true', Bool.not_eq_false, List.contains_eq_mem,
        decide_eq_true_eq]
      constructor
      · rintro ⟨agrees, covers, undirected⟩
        exact ⟨counts, (isIncreasing_iff _).1 ordered, agrees, by simpa using covers,
          by simpa using undirected⟩
      · intro sound
        exact ⟨sound.agrees, by simpa using sound.covers, by simpa using sound.undirected⟩
    · simp only [counts, ne_eq, not_true_eq_false, ↓reduceIte, Bool.not_eq_true] at ordered ⊢
      simp only [ordered, Bool.not_false, ↓reduceIte, reduceCtorEq, false_iff]
      exact fun sound => absurd ((isIncreasing_iff _).2 sound.ordered) (by simp [ordered])
  · simp only [ne_eq, counts, not_false_eq_true, ↓reduceIte, reduceCtorEq, false_iff]
    exact fun sound => counts sound.counts

end RecordProjection
