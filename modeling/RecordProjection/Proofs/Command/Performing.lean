import RecordProjection.Proofs.Command.Printing

/-! The steps of a generation. Either one of them fails, with the files as they were unless it is
the storing or the report on it, or all of them succeed. -/

namespace RecordProjection.Command
open Files

section Steps
variable {α β : Type} {step : Attempt α} {next : α → Attempt β} {before after : Progress}

theorem bind_of_ok {value : α} (done : step before = .ok value after) :
    (step >>= next) before = next value after := by
  change EStateM.bind step next before = next value after
  rw [EStateM.bind, done]

theorem bind_of_error {failure : Failure} (failed : step before = .error failure after) :
    (step >>= next) before = .error failure after := by
  change EStateM.bind step next before = .error failure after
  rw [EStateM.bind, failed]

theorem print_of_shown {console : Console} {text : String} (shown : console.fault? text = none) :
    console.print text before = .ok () { before with output := before.output ++ text } := by
  rw [Console.print, shown]

theorem print_of_hidden {console : Console} {text : String} {fault : PrintFault}
    (hidden : console.fault? text = some fault) :
    console.print text before = .error (.unprintable fault) before := by
  rw [Console.print, hidden]

end Steps

def Run.Returns (run : Run) : Prop := run.exitCode = 0 ∧ run.escaped = none

/-- What can keep a generation from its end, with the files that it leaves. -/
inductive Generation.Fails (console : Console) (generation : Generation) (files : FileTree) :
    FileTree → Failure → Prop
  | unstarted {fault : PrintFault} (hidden : console.fault? generation.parsing = some fault) :
      generation.Fails console files files (.unprintable fault)
  | unread {fault : LoadFault} (started : console.fault? generation.parsing = none)
      (loaded : loadRegistry files generation.input = .error fault) :
      generation.Fails console files files (.ofLoad fault)
  | unknown {records : List Record} (started : console.fault? generation.parsing = none)
      (loaded : loadRegistry files generation.input = .ok records)
      (missing : unknownNames generation.selected records ≠ []) :
      generation.Fails console files files (.config (.unknownRecords generation.input.name
        (unknownNames generation.selected records)))
  | unexpanded {records : List Record} {fault : ExpansionFault}
      (started : console.fault? generation.parsing = none)
      (loaded : loadRegistry files generation.input = .ok records)
      (known : unknownNames generation.selected records = [])
      (refused : expandRecords records generation.selected = .error fault) :
      generation.Fails console files files (.expansion fault)
  | unstored {records : List Record} {outcomes : List Outcome} {after : FileTree}
      {fault : FileFault} (started : console.fault? generation.parsing = none)
      (loaded : loadRegistry files generation.input = .ok records)
      (known : unknownNames generation.selected records = [])
      (expanded : expandRecords records generation.selected = .ok outcomes)
      (stored : storeRegistry files generation.outputDirectory generation.input.name
        (allDefinitions outcomes) = (after, .error fault)) :
      generation.Fails console files after (.file fault)
  /-- What comes after the storing. -/
  | untold {records : List Record} {outcomes : List Outcome} {after : FileTree}
      {written : WrittenFile} {fault : PrintFault}
      (started : console.fault? generation.parsing = none)
      (loaded : loadRegistry files generation.input = .ok records)
      (known : unknownNames generation.selected records = [])
      (expanded : expandRecords records generation.selected = .ok outcomes)
      (stored : storeRegistry files generation.outputDirectory generation.input.name
        (allDefinitions outcomes) = (after, .ok written))
      (hidden : console.fault? (generation.report outcomes written).render = some fault) :
      generation.Fails console files after (.unprintable fault)

structure Generation.Succeeds (console : Console) (generation : Generation) (files : FileTree)
    (records : List Record) (outcomes : List Outcome) (after : FileTree) (written : WrittenFile) :
    Prop where
  started : console.fault? generation.parsing = none
  loaded : loadRegistry files generation.input = .ok records
  known : unknownNames generation.selected records = []
  expanded : expandRecords records generation.selected = .ok outcomes
  stored : storeRegistry files generation.outputDirectory generation.input.name
    (allDefinitions outcomes) = (after, .ok written)
  told : console.fault? (generation.report outcomes written).render = none

section Generating
variable {console : Console} {generation : Generation} {files after : FileTree}
  {records : List Record} {outcomes : List Outcome} {written : WrittenFile} {failure : Failure}

theorem shown_records (console : Console) (count : Nat) :
    console.fault? s!"  Records: {count} loaded\n" = none :=
  fault?_counted console "  Records: " count " loaded\n" (by decide) (by decide)

theorem shown_expanded (console : Console) (count : Nat) :
    console.fault? s!"  Expanded: {count} records\n" = none :=
  fault?_counted console "  Expanded: " count " records\n" (by decide) (by decide)

theorem perform_of_loaded (started : console.fault? generation.parsing = none)
    (loaded : loadRegistry files generation.input = .ok records) :
    ∃ output, generation.perform console { files } = (do
      let outcomes ← generation.expand records
      console.print s!"  Expanded: {expandedCount outcomes} records\n"
      let written ← generation.store outcomes
      console.print (generation.report outcomes written).render : Attempt Unit)
        { files, output } := by
  have load (output : String) :
      generation.load { files, output } = .ok records { files, output } := by
    rw [Generation.load, loaded]
  rw [Generation.perform, bind_of_ok (print_of_shown started), bind_of_ok (load _),
    bind_of_ok (print_of_shown (shown_records console records.length))]
  exact ⟨_, rfl⟩

theorem perform_of_expanded (started : console.fault? generation.parsing = none)
    (loaded : loadRegistry files generation.input = .ok records)
    (known : unknownNames generation.selected records = [])
    (expanded : expandRecords records generation.selected = .ok outcomes) :
    ∃ output, generation.perform console { files } = (do
      let written ← generation.store outcomes
      console.print (generation.report outcomes written).render : Attempt Unit)
        { files, output } := by
  obtain ⟨output, performed⟩ := perform_of_loaded started loaded
  have expand : generation.expand records { files, output } = .ok outcomes { files, output } := by
    rw [Generation.expand, known, expanded]
  rw [performed, bind_of_ok expand,
    bind_of_ok (print_of_shown (shown_expanded console (expandedCount outcomes)))]
  exact ⟨_, rfl⟩

theorem store_of_error (output : String) {fault : FileFault}
    (stored : storeRegistry files generation.outputDirectory generation.input.name
      (allDefinitions outcomes) = (after, .error fault)) :
    generation.store outcomes { files, output } =
      .error (.file fault) { files := after, output } := by
  rw [Generation.store, stored]

theorem store_of_ok (output : String)
    (stored : storeRegistry files generation.outputDirectory generation.input.name
      (allDefinitions outcomes) = (after, .ok written)) :
    generation.store outcomes { files, output } = .ok written { files := after, output } := by
  rw [Generation.store, stored]

theorem perform_of_fails (fails : generation.Fails console files after failure) :
    ∃ output, generation.perform console { files } =
      .error failure { files := after, output } := by
  cases fails with
  | unstarted hidden =>
    rw [Generation.perform, bind_of_error (print_of_hidden hidden)]
    exact ⟨_, rfl⟩
  | @unread fault started loaded =>
    have load (output : String) :
        generation.load { files, output } = .error (.ofLoad fault) { files, output } := by
      rw [Generation.load, loaded]
    rw [Generation.perform, bind_of_ok (print_of_shown started), bind_of_error (load _)]
    exact ⟨_, rfl⟩
  | unknown started loaded missing =>
    obtain ⟨output, performed⟩ := perform_of_loaded started loaded
    refine ⟨output, performed.trans (bind_of_error ?_)⟩
    unfold Generation.expand
    split
    · contradiction
    · rfl
  | unexpanded started loaded known refused =>
    obtain ⟨output, performed⟩ := perform_of_loaded started loaded
    refine ⟨output, performed.trans (bind_of_error ?_)⟩
    rw [Generation.expand, known, refused]
  | unstored started loaded known expanded stored =>
    obtain ⟨output, performed⟩ := perform_of_expanded started loaded known expanded
    exact ⟨output, performed.trans (bind_of_error (store_of_error output stored))⟩
  | untold started loaded known expanded stored hidden =>
    obtain ⟨output, performed⟩ := perform_of_expanded started loaded known expanded
    refine ⟨output, performed.trans ((bind_of_ok (store_of_ok output stored)).trans ?_)⟩
    exact print_of_hidden hidden

theorem run_of_fails (fails : generation.Fails console files after failure) :
    ∃ output, generation.run console files = .failed console after output failure := by
  obtain ⟨output, performed⟩ := perform_of_fails fails
  rw [Generation.run, performed]
  exact ⟨output, rfl⟩

theorem run_of_succeeds
    (succeeds : generation.Succeeds console files records outcomes after written) :
    ∃ output, generation.run console files =
      { output := output ++ (generation.report outcomes written).render, files := after } := by
  obtain ⟨output, performed⟩ :=
    perform_of_expanded succeeds.started succeeds.loaded succeeds.known succeeds.expanded
  rw [bind_of_ok (store_of_ok output succeeds.stored), print_of_shown succeeds.told]
    at performed
  rw [Generation.run, performed]
  exact ⟨output, rfl⟩

theorem fails_or_succeeds (console : Console) (generation : Generation) (files : FileTree) :
    (∃ after failure, generation.Fails console files after failure) ∨
      ∃ records outcomes after written,
        generation.Succeeds console files records outcomes after written := by
  cases started : console.fault? generation.parsing with
  | some fault => exact .inl ⟨_, _, .unstarted started⟩
  | none =>
    cases loaded : loadRegistry files generation.input with
    | error fault => exact .inl ⟨_, _, .unread started loaded⟩
    | ok records =>
      by_cases known : unknownNames generation.selected records = []
      · cases expanded : expandRecords records generation.selected with
        | error fault => exact .inl ⟨_, _, .unexpanded started loaded known expanded⟩
        | ok outcomes =>
          cases stored : storeRegistry files generation.outputDirectory generation.input.name
            (allDefinitions outcomes) with
          | mk after result =>
            cases result with
            | error fault => exact .inl ⟨_, _, .unstored started loaded known expanded stored⟩
            | ok written =>
              cases told : console.fault? (generation.report outcomes written).render with
              | some fault => exact .inl ⟨_, _, .untold started loaded known expanded stored told⟩
              | none =>
                exact .inr ⟨records, outcomes, after, written,
                  started, loaded, known, expanded, stored, told⟩
      · exact .inl ⟨_, _, .unknown started loaded known⟩

end Generating

end RecordProjection.Command
