/-! Readings one after the other: what each of them has read if all succeed, and which of them has
failed otherwise. And lists that come out as they were. -/

namespace RecordProjection

theorem bind_eq_ok {α β γ : Type} {first : Except γ α} {next : α → Except γ β} {result : β}
    (ok : (first >>= next) = .ok result) :
    ∃ value, first = .ok value ∧ next value = .ok result := by
  cases first with
  | error fault => cases ok
  | ok value => exact ⟨value, rfl, ok⟩

theorem map_eq_ok {α β γ : Type} {read : Except γ α} {make : α → β} {result : β}
    (made : read.map make = .ok result) : ∃ value, read = .ok value ∧ make value = result := by
  cases read with
  | error fault => cases made
  | ok value =>
    cases made
    exact ⟨value, rfl, rfl⟩

theorem mapError_eq_ok {α β γ : Type} {read : Except β α} {make : β → γ} {result : α}
    (made : read.mapError make = .ok result) : read = .ok result := by
  cases read with
  | error fault => cases made
  | ok value =>
    cases made
    rfl

theorem mem_of_mapM_ok {α β γ : Type} {read : α → Except β γ} {values : List α} {results : List γ}
    (ok : values.mapM read = .ok results) :
    ∀ result ∈ results, ∃ value ∈ values, read value = .ok result := by
  induction values generalizing results with
  | nil =>
    cases ok
    exact List.forall_mem_nil _
  | cons first rest ih =>
    rw [List.mapM_cons] at ok
    obtain ⟨result, own, ok⟩ := bind_eq_ok ok
    obtain ⟨remaining, others, ok⟩ := bind_eq_ok ok
    cases ok
    refine List.forall_mem_cons.2 ⟨⟨first, List.mem_cons_self, own⟩, fun other member => ?_⟩
    obtain ⟨value, listed, found⟩ := ih others other member
    exact ⟨value, List.mem_cons_of_mem _ listed, found⟩

theorem bind_eq_error {α β γ : Type} {first : Except γ α} {next : α → Except γ β} {fault : γ}
    (failed : (first >>= next) = .error fault) :
    first = .error fault ∨ ∃ value, first = .ok value ∧ next value = .error fault := by
  cases first with
  | error cause =>
    cases failed
    exact .inl rfl
  | ok value => exact .inr ⟨value, rfl, failed⟩

theorem mem_of_mapM_error {α β γ : Type} {read : α → Except β γ} {values : List α} {fault : β}
    (failed : values.mapM read = .error fault) : ∃ value ∈ values, read value = .error fault := by
  induction values with
  | nil => cases failed
  | cons first rest ih =>
    rw [List.mapM_cons] at failed
    rcases bind_eq_error failed with own | ⟨result, -, failed⟩
    · exact ⟨first, List.mem_cons_self, own⟩
    · rcases bind_eq_error failed with others | ⟨results, -, failed⟩
      · obtain ⟨value, listed, found⟩ := ih others
        exact ⟨value, List.mem_cons_of_mem _ listed, found⟩
      · cases failed

theorem mapM_map_of_ok {α β γ δ : Type} (make : α → δ) (result : α → γ)
    {read : δ → Except β γ} {values : List α}
    (each : ∀ value ∈ values, read (make value) = .ok (result value)) :
    (values.map make).mapM read = .ok (values.map result) := by
  induction values with
  | nil => rfl
  | cons first rest ih =>
    obtain ⟨own, others⟩ := List.forall_mem_cons.1 each
    rw [List.map_cons, List.mapM_cons, own, ih others]
    rfl

theorem pairs_of_mapM_ok {α β γ : Type} {read : α → Except β γ} {values : List α}
    {results : List γ} (ok : values.mapM read = .ok results) :
    ∃ pairs : List (α × γ), pairs.map Prod.fst = values ∧ pairs.map Prod.snd = results ∧
      ∀ pair ∈ pairs, read pair.1 = .ok pair.2 := by
  induction values generalizing results with
  | nil =>
    cases ok
    exact ⟨[], rfl, rfl, List.forall_mem_nil _⟩
  | cons first rest ih =>
    rw [List.mapM_cons] at ok
    obtain ⟨result, own, ok⟩ := bind_eq_ok ok
    obtain ⟨remaining, others, ok⟩ := bind_eq_ok ok
    cases ok
    obtain ⟨pairs, rfl, rfl, reads⟩ := ih others
    exact ⟨(first, result) :: pairs, rfl, rfl, List.forall_mem_cons.2 ⟨own, reads⟩⟩

theorem pairs_of_map_eq {α β γ : Type} {first : α → γ} {second : β → γ} {ones : List α}
    {others : List β} (same : ones.map first = others.map second) :
    ∃ pairs : List (α × β), pairs.map Prod.fst = ones ∧ pairs.map Prod.snd = others ∧
      ∀ pair ∈ pairs, first pair.1 = second pair.2 := by
  induction ones generalizing others with
  | nil =>
    obtain rfl : others = [] := List.map_eq_nil_iff.1 same.symm
    exact ⟨[], rfl, rfl, List.forall_mem_nil _⟩
  | cons one ones ih =>
    obtain ⟨other, others, rfl, alike, same⟩ := List.map_eq_cons_iff.1 same.symm
    obtain ⟨pairs, rfl, rfl, each⟩ := ih same.symm
    exact ⟨(one, other) :: pairs, rfl, rfl, List.forall_mem_cons.2 ⟨alike.symm, each⟩⟩

theorem map_eq_self_iff {α : Type} {change : α → α} {values : List α} :
    values.map change = values ↔ ∀ value ∈ values, change value = value := by
  have same : values.map change = values.map id ↔ ∀ value ∈ values, change value = id value :=
    List.map_inj_left
  rwa [List.map_id] at same

theorem some_of_mapM_ok {α β γ : Type} {read : α → Except β γ} {given : Option α} {result : γ}
    (ok : given.mapM read = .ok (some result)) :
    ∃ value, given = some value ∧ read value = .ok result := by
  cases given with
  | none => cases ok
  | some value =>
    rw [Option.mapM_some] at ok
    obtain ⟨found, own, same⟩ := map_eq_ok ok
    cases same
    exact ⟨value, rfl, own⟩

theorem some_of_mapM_error {α β γ : Type} {read : α → Except β γ} {given : Option α} {fault : β}
    (failed : given.mapM read = .error fault) :
    ∃ value, given = some value ∧ read value = .error fault := by
  cases given with
  | none => cases failed
  | some value =>
    rw [Option.mapM_some] at failed
    cases own : read value with
    | error cause =>
      rw [own] at failed
      cases failed
      exact ⟨value, rfl, own⟩
    | ok found =>
      rw [own] at failed
      cases failed

end RecordProjection
