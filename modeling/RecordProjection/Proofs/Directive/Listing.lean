import RecordProjection.Directive.Reading

/-! The directives of a list of annotations, seen from the annotations. A reading does not depend on
where the annotation stands, and the diagnostics of all directives are those of the annotations one
after the other. -/

namespace RecordProjection
open Directive

section Listing
variable {α β : Type} (owner : String) (annotations : List String)
  (read : DirectiveKind → String → Option (Except Malformation α))

def readingOf (note : String) : Option (Except Malformation α) :=
  (directiveKind? note).bind fun kind => read kind note

theorem directivesOf_eq :
    directivesOf owner annotations read = annotations.zipIdx.filterMap fun entry =>
      (readingOf read entry.1).map fun reading =>
        ⟨annotationLocation owner entry.2, reading⟩ := by
  unfold directivesOf readingOf
  congr 1
  funext entry
  cases found : directiveKind? entry.1 with
  | none => simp [found]
  | some kind => cases read_kind : read kind entry.1 <;> simp [found, read_kind]

theorem flatMap_directivesOf (report : Located α → List β) :
    (directivesOf owner annotations read).flatMap report =
      annotations.zipIdx.flatMap fun entry =>
        (readingOf read entry.1).elim [] fun reading =>
          report ⟨annotationLocation owner entry.2, reading⟩ := by
  rw [directivesOf_eq]
  induction annotations.zipIdx with
  | nil => rfl
  | cons entry rest ih =>
    cases found : readingOf read entry.1 <;> simp [found, ih]

theorem values_directivesOf :
    Located.values (directivesOf owner annotations read) =
      annotations.filterMap fun note => (readingOf read note).bind Except.toOption := by
  have located : ∀ entries : List (String × Nat),
      Located.values (entries.filterMap fun entry =>
          (readingOf read entry.1).map fun reading =>
            (⟨annotationLocation owner entry.2, reading⟩ : Located α)) =
        (entries.map Prod.fst).filterMap fun note =>
          (readingOf read note).bind Except.toOption := by
    intro entries
    induction entries with
    | nil => rfl
    | cons entry rest ih =>
      cases found : readingOf read entry.1 with
      | none => simpa [found] using ih
      | some reading =>
        unfold Located.values at ih ⊢
        cases reading <;> simpa [found, Except.toOption] using ih
  rw [directivesOf_eq, located, List.zipIdx_map_fst]

theorem directivesOf_eq_nil_iff :
    directivesOf owner annotations read = [] ↔
      ∀ note ∈ annotations, readingOf read note = none := by
  rw [directivesOf_eq, List.filterMap_eq_nil_iff]
  simp only [Option.map_eq_none_iff]
  constructor
  · intro empty note member
    rw [← List.zipIdx_map_fst 0 annotations] at member
    obtain ⟨entry, stands, rfl⟩ := List.mem_map.1 member
    exact empty entry stands
  · intro empty entry stands
    exact empty entry.1 (List.fst_mem_of_mem_zipIdx stands)

theorem any_isMalformed_directivesOf :
    (directivesOf owner annotations read).any Located.isMalformed =
      annotations.any fun note => (readingOf read note).any fun reading => !reading.isOk := by
  have located : ∀ entries : List (String × Nat),
      (entries.filterMap fun entry =>
          (readingOf read entry.1).map fun reading =>
            (⟨annotationLocation owner entry.2, reading⟩ : Located α)).any Located.isMalformed =
        (entries.map Prod.fst).any fun note =>
          (readingOf read note).any fun reading => !reading.isOk := by
    intro entries
    induction entries with
    | nil => rfl
    | cons entry rest ih =>
      cases found : readingOf read entry.1 with
      | none => simpa [found] using ih
      | some reading =>
        cases reading <;>
          simp [found, Located.isMalformed, Except.isOk, Except.toBool, ih]
  rw [directivesOf_eq, located, List.zipIdx_map_fst]

end Listing

end RecordProjection
