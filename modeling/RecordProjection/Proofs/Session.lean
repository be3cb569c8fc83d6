import RecordProjection.Proofs.Projection.Context
import RecordProjection.Proofs.Registry.Regeneration
import RecordProjection.Session

/-! Sessions step by step. Diagnostics are only ever added, and what a step adds depends on nothing
but the names that were declared last. The records of a session stay such that a registry can hold
them, so what it generates can always be read again. -/

namespace RecordProjection.Session
open Text

def Step.reports (declared : Option Declared) : Step → List Diagnostic
  | .readRecord record => record.ownDiagnostics
  | .readField owner index field => field.diagnostics owner index declared
  | .report diagnostics => diagnostics
  | _ => []

def Step.declares (declared : Option Declared) : Step → Option Declared
  | .readRecord record => record.declared
  | _ => declared

def reported (declared : Option Declared) : List Step → List Diagnostic
  | [] => []
  | step :: steps => step.reports declared ++ reported (step.declares declared) steps

section Steps
variable {session next : Session}

theorem load_eq_ok {octets : ByteArray} (loaded : session.load octets = .ok next) :
    readRecords octets = .ok next.records ∧ next.diagnostics = session.diagnostics ∧
      next.declared = session.declared := by
  unfold load at loaded
  split at loaded
  · cases loaded
  · rename_i read
    cases loaded
    exact ⟨read, rfl, rfl⟩

theorem exists_load_of_generate {selected : List String}
    (generated : session.take (.generate selected) = .ok next) :
    ∃ octets, session.load octets = .ok next := by
  obtain ⟨⟨_, made⟩, generates, rfl⟩ := map_eq_ok generated
  unfold generate at generates
  split at generates
  · cases generates
  · obtain ⟨loaded, read, same⟩ := map_eq_ok generates
    cases same
    exact ⟨_, read⟩

theorem state_after (session : Session) (step : Step) :
    (session.after step).diagnostics = session.diagnostics ++ step.reports session.declared ∧
      (session.after step).declared = step.declares session.declared := by
  have kept : session.diagnostics = session.diagnostics ++ [] := (List.append_nil _).symm
  cases step with
  | load octets =>
    unfold after
    split
    · exact ⟨kept, rfl⟩
    · rename_i next loaded
      obtain ⟨-, diagnostics, declared⟩ := load_eq_ok loaded
      exact ⟨diagnostics.trans kept, declared⟩
  | add record => exact ⟨kept, rfl⟩
  | generate selected =>
    unfold after
    split
    · exact ⟨kept, rfl⟩
    · rename_i next generated
      obtain ⟨_, loaded⟩ := exists_load_of_generate generated
      obtain ⟨-, diagnostics, declared⟩ := load_eq_ok loaded
      exact ⟨diagnostics.trans kept, declared⟩
  | readRecord record =>
    rw [after, take, readRecord, Record.collect_eq]
    exact ⟨rfl, rfl⟩
  | readField owner index field =>
    rw [after, take, readField, Field.collect_eq]
    exact ⟨rfl, rfl⟩
  | report diagnostics => exact ⟨rfl, rfl⟩

/-- A run adds to the diagnostics what its steps report, whatever was there and whichever records
the session has. -/
theorem diagnostics_run (session : Session) (steps : List Step) :
    (session.run steps).diagnostics = session.diagnostics ++ reported session.declared steps := by
  induction steps generalizing session with
  | nil => exact (List.append_nil _).symm
  | cons step steps ih =>
    obtain ⟨diagnostics, declared⟩ := state_after session step
    rw [run, List.foldl_cons, ← run, ih, diagnostics, declared, reported, List.append_assoc]

def Promised (session : Session) : Prop := ∀ record ∈ session.records, record.Promised

theorem promised_after (promised : session.Promised) {step : Step}
    (added : ∀ record, step = .add record → record.Promised) : (session.after step).Promised := by
  cases step with
  | load octets =>
    unfold after
    split
    · exact promised
    · rename_i next loaded
      exact promised_of_readRecords (load_eq_ok loaded).1
  | add record =>
    exact List.forall_mem_append.2 ⟨promised, List.forall_mem_singleton.2 (added record rfl)⟩
  | generate selected =>
    unfold after
    split
    · exact promised
    · rename_i next generated
      obtain ⟨_, loaded⟩ := exists_load_of_generate generated
      exact promised_of_readRecords (load_eq_ok loaded).1
  | readRecord record => exact promised
  | readField owner index field => exact promised
  | report diagnostics => exact promised

theorem promised_run (promised : session.Promised) {steps : List Step}
    (added : ∀ record, .add record ∈ steps → record.Promised) : (session.run steps).Promised := by
  induction steps generalizing session with
  | nil => exact promised
  | cons step steps ih =>
    have first : (session.after step).Promised := by
      refine promised_after promised ?_
      rintro record rfl
      exact added record List.mem_cons_self
    exact ih first fun record member => added record (List.mem_cons_of_mem _ member)

/-- What can be held can be generated from: only diagnostics speak against it, and what has been
generated is read again with the names that were emitted. -/
theorem take_generate (promised : session.Promised)
    (short : ∀ record ∈ session.records, record.fields.length ≤ 10 ^ maxDigits)
    (selected : List String) :
    (∃ diagnostics, diagnostics ≠ [] ∧
      session.take (.generate selected) = .error (.expansion (.rejected diagnostics none))) ∨
    ∃ next, session.take (.generate selected) = .ok next ∧
      next.records.map Record.name =
        (emittedFor selected session.records).map Definition.name := by
  have expands := expandRecords_eq session.records selected
  cases objections : session.records.flatMap (Record.objections selected) with
  | cons first rest =>
    rw [objections] at expands
    refine .inl ⟨first :: rest, List.cons_ne_nil _ _, ?_⟩
    rw [take, generate, expands]
    rfl
  | nil =>
    rw [objections] at expands
    obtain ⟨again, read, names⟩ := names_generated selected promised short
    have emitted : (session.records.map (Record.outcome selected)).flatMap Outcome.definitions =
        emittedFor selected session.records := List.flatMap_map ..
    refine .inr ⟨{ session with records := again }, ?_, names⟩
    rw [take, generate, expands]
    dsimp only
    rw [emitted, load, read]
    rfl

end Steps

/-- Whatever a session has gone through, it can go on with what it generates. -/
theorem generate_run {steps : List Step} (added : ∀ record, .add record ∈ steps → record.Promised)
    {selected : List String} {fault : SessionFault}
    (short : ∀ record ∈ (run {} steps).records, record.fields.length ≤ 10 ^ maxDigits)
    (refused : (run {} steps).take (.generate selected) = .error fault) :
    ∃ diagnostics, diagnostics ≠ [] ∧ fault = .expansion (.rejected diagnostics none) := by
  have fresh : Promised {} := List.forall_mem_nil Record.Promised
  have promised := promised_run fresh added
  rcases take_generate promised short selected with
    ⟨diagnostics, some_, rejected⟩ | ⟨next, generated, -⟩
  · cases refused.symm.trans rejected
    exact ⟨diagnostics, some_, rfl⟩
  · cases refused.symm.trans generated

end RecordProjection.Session
