import Mathlib.Tactic.ByContra
import RecordProjection.Proofs.Command.Performing
import RecordProjection.Proofs.Command.Request
import RecordProjection.Proofs.Files.Ordinary
import RecordProjection.Proofs.Markup.Document
import RecordProjection.Proofs.Report.Detail

/-! How runs end that fail. A generation tells of everything that can keep it from writing, but for
an encoding that nobody knows. A discovery tells only of a record that is missing, and ends without
a word when its registry cannot be read. Nothing is told either of an input that the system does not
let be looked for, and of what the console does not show. -/

namespace RecordProjection.Command
open Files Markup

structure Run.Explains (run : Run) (words : String) : Prop where
  ends : run.exitCode = 1 ∧ run.escaped = none
  spoken : words ≠ ""
  last : (∃ before, run.output = before ++ words) ∧ run.errors = "" ∨
    run.output = "" ∧ run.errors = words

/-- A failure that lies in files: in reaching them, in their markup, or in the registry they hold. A
number that is too long for its index is not counted among them. -/
inductive Failure.InFile : Failure → Prop
  | file (fault : FileFault) : InFile (.file fault)
  | malformed (kind : FaultKind) (line column : Nat) :
      InFile (.content (.document (.malformed kind line column)))
  | registry (fault : RegistryFault) (legible : ∀ cause, fault ≠ .unreadableIndex cause) :
      InFile (.content (.registry fault))

section Reports
variable {failure : Failure} {texts : List String} {console : Console}

theorem append_ne_empty (text : String) {rest : String} (spoken : rest ≠ "") : text ++ rest ≠ "" :=
  fun silent => spoken (String.append_eq_empty_iff.1 silent).2

theorem join_ne_empty {text : String} (member : text ∈ texts) (spoken : text ≠ "") :
    String.join texts ≠ "" := by
  intro silent
  have characters := congrArg String.toList silent
  rw [String.toList_join, String.toList_empty, List.flatMap_eq_nil_iff] at characters
  exact spoken (String.toList_eq_nil_iff.1 (characters text member))

theorem exists_spoken_line (fault : ConfigFault) : ∃ line ∈ fault.lines, line ≠ "" := by
  have lineFeed : "\n" ≠ "" := by decide
  refine ⟨_, ?_, append_ne_empty (s!"Config error [{fault.code.text}]: {fault.message}") lineFeed⟩
  unfold ConfigFault.lines
  dsimp only
  split
  · exact List.mem_singleton_self _
  · split
    · exact List.mem_singleton_self _
    · exact List.mem_cons_self

theorem report?_eq_none_iff :
    failure.manner.report? = none ↔ ∃ fault, failure = .content (.document (.lookup fault)) := by
  unfold Failure.manner readManner
  split
  · simp [Manner.report?]
  · simp [Manner.report?]
  · simp [Manner.report?]
  · simp [Manner.report?]
  · split <;> simp [Manner.report?]
  · simp [Manner.report?]
  · simp [Manner.report?]

theorem report?_ne_empty (reported : failure.manner.report? = some texts) :
    String.join texts ≠ "" := by
  have lineFeed : "\n" ≠ "" := by decide
  have single (message : String) : String.join [message ++ "\n"] ≠ "" :=
    join_ne_empty List.mem_cons_self (append_ne_empty message lineFeed)
  cases failure with
  | config fault =>
    cases reported
    obtain ⟨line, member, spoken⟩ := exists_spoken_line fault
    exact join_ne_empty member spoken
  | expansion fault =>
    cases fault with
    | rejected diagnostics record =>
      cases reported
      exact join_ne_empty (List.mem_append_right _ List.mem_cons_self)
        (append_ne_empty _ lineFeed)
    | invariant fault =>
      cases reported
      exact single _
  | file fault =>
    cases reported
    exact single _
  | content fault =>
    unfold Failure.manner readManner at reported
    dsimp only at reported
    split at reported <;> cases reported <;> exact single _
  | nullCharacter =>
    cases reported
    exact single _
  | unprintable fault =>
    cases reported
    exact single _

theorem report?_of_inFile (inFile : failure.InFile) :
    failure.manner.report? = some [s!"Error: {failure.message}\n"] := by
  cases inFile with
  | file fault => rfl
  | malformed kind line column => rfl
  | registry fault legible =>
    cases fault with
    | unreadableIndex cause => exact absurd rfl (legible cause)
    | _ => rfl

theorem explains_failed (after : FileTree) (output : String)
    (reported : failure.manner.report? = some texts)
    (shown : ∀ text ∈ texts, console.fault? text = none) :
    (Run.failed console after output failure).Explains (String.join texts) := by
  unfold Run.failed
  rw [reported]
  dsimp only
  rw [tell_of_shown console shown]
  exact ⟨⟨rfl, rfl⟩, report?_ne_empty reported, .inl ⟨⟨output, rfl⟩, rfl⟩⟩

theorem escaped_of_hidden (after : FileTree) (output : String) {fault : PrintFault}
    (reported : failure.manner.report? = some texts)
    (hidden : texts.findSome? console.fault? = some fault) :
    (Run.failed console after output failure).escaped = some (.unprintable fault) := by
  unfold Run.failed
  rw [reported]
  dsimp only
  obtain ⟨printed, told⟩ := tell_of_hidden console hidden { output, exitCode := 1, files := after }
  rw [told]

end Reports

section Discovering
variable {console : Console} {discovery : Discovery} {files : FileTree} {records : List Record}
  {name text : String}

def Discovery.missingMessage (discovery : Discovery) (name : String) : String :=
  s!"Error: record '{name}' not found in {discovery.input.name}\n"

inductive Discovery.Finds (discovery : Discovery) (records : List Record) : String → Prop
  | table (command : discovery.command = .listRecords) :
      discovery.Finds records (discovery.table records)
  | detail {name : String} {detail : RecordDetail} (command : discovery.command = .info)
      (shown : discovery.record = some name) (looked : detailOf? records name = .ok (some detail)) :
      discovery.Finds records detail.render

theorem explains_of_absent (command : discovery.command = .info)
    (shown : discovery.record = some name)
    (loaded : loadRegistry files discovery.input = .ok records)
    (absent : ∀ record ∈ records, record.name ≠ name) :
    (discovery.run console files).Explains (discovery.missingMessage name) := by
  have looked := detailOf?_of_absent absent
  unfold Discovery.run
  rw [loaded, command]
  dsimp only
  unfold Discovery.showRecord
  rw [shown, Option.getD_some]
  dsimp only
  rw [looked]
  exact ⟨⟨rfl, rfl⟩, append_ne_empty _ (by decide), .inr ⟨rfl, rfl⟩⟩

theorem run_of_finds (loaded : loadRegistry files discovery.input = .ok records)
    (finds : discovery.Finds records text) :
    discovery.run console files = { files : Run }.tell console [text] := by
  unfold Discovery.run
  rw [loaded]
  dsimp only
  cases finds with
  | table command => rw [command]
  | detail command shown looked =>
    rw [command]
    dsimp only
    unfold Discovery.showRecord
    rw [shown, Option.getD_some]
    dsimp only
    rw [looked]

theorem finds_of_present (records : List Record)
    (present : discovery.command = .info →
      ∃ name, discovery.record = some name ∧ ∃ record ∈ records, record.name = name) :
    ∃ text, discovery.Finds records text := by
  cases command : discovery.command with
  | listRecords => exact ⟨_, .table command⟩
  | info =>
    obtain ⟨name, shown, among⟩ := present command
    obtain ⟨_, _, _, -, -, -, looked⟩ := detailOf?_of_present among
    exact ⟨_, .detail command shown looked⟩

theorem run_of_unloaded {fault : LoadFault}
    (loaded : loadRegistry files discovery.input = .error fault) :
    discovery.run console files = .abandoned files (.ofLoad fault) := by
  unfold Discovery.run
  rw [loaded]

end Discovering

inductive Arguments.Explanation (console : Console) (arguments : Arguments) (files : FileTree) :
    String → Prop
  | refused {fault : ConfigFault} (requested : arguments.request files = .error (.config fault))
      (shown : ∀ line ∈ fault.lines, console.fault? line = none) :
      arguments.Explanation console files (String.join fault.lines)
  | failed {generation : Generation} {after : FileTree} {failure : Failure} {texts : List String}
      (requested : arguments.request files = .ok (.generate generation))
      (fails : generation.Fails console files after failure)
      (reported : failure.manner.report? = some texts)
      (shown : ∀ text ∈ texts, console.fault? text = none) :
      arguments.Explanation console files (String.join texts)
  | missing {discovery : Discovery} {records : List Record} {name : String}
      (requested : arguments.request files = .ok (.discover discovery))
      (command : discovery.command = .info) (shown : discovery.record = some name)
      (loaded : loadRegistry files discovery.input = .ok records)
      (absent : ∀ record ∈ records, record.name ≠ name) :
      arguments.Explanation console files (discovery.missingMessage name)

/-- The failures to read an input for which a run has no words. -/
inductive Arguments.Unread (arguments : Arguments) (files : FileTree) : Failure → Prop
  | discovering {discovery : Discovery} {fault : LoadFault}
      (requested : arguments.request files = .ok (.discover discovery))
      (loaded : loadRegistry files discovery.input = .error fault) :
      arguments.Unread files (.ofLoad fault)
  | generating {generation : Generation} {fault : LookupFault}
      (requested : arguments.request files = .ok (.generate generation))
      (loaded : loadRegistry files generation.input =
        .error (.content (.document (.lookup fault)))) :
      arguments.Unread files (.content (.document (.lookup fault)))

/-- The failures for which a run has no words, or none that the console shows. -/
inductive Arguments.Unreported (console : Console) (arguments : Arguments) (files : FileTree) :
    Failure → Prop
  | unseen {fault : FileFault} (requested : arguments.request files = .error (.file fault)) :
      arguments.Unreported console files (.file fault)
  | nameless (requested : arguments.request files = .error .nullCharacter) :
      arguments.Unreported console files .nullCharacter
  | unread {failure : Failure} (unread : arguments.Unread files failure)
      (started : ∀ generation, arguments.request files = .ok (.generate generation) →
        console.fault? generation.parsing = none) :
      arguments.Unreported console files failure
  /-- What the arguments are refused for cannot be shown. -/
  | refused {fault : ConfigFault} {hidden : PrintFault}
      (requested : arguments.request files = .error (.config fault))
      (silent : fault.lines.findSome? console.fault? = some hidden) :
      arguments.Unreported console files (.unprintable hidden)
  /-- What was found cannot be shown. -/
  | found {discovery : Discovery} {records : List Record} {text : String} {hidden : PrintFault}
      (requested : arguments.request files = .ok (.discover discovery))
      (loaded : loadRegistry files discovery.input = .ok records)
      (finds : discovery.Finds records text) (silent : console.fault? text = some hidden) :
      arguments.Unreported console files (.unprintable hidden)
  /-- What kept the generation from its end cannot be shown. -/
  | failed {generation : Generation} {after : FileTree} {failure : Failure} {texts : List String}
      {hidden : PrintFault} (requested : arguments.request files = .ok (.generate generation))
      (fails : generation.Fails console files after failure)
      (reported : failure.manner.report? = some texts)
      (silent : texts.findSome? console.fault? = some hidden) :
      arguments.Unreported console files (.unprintable hidden)

section Runs
variable {console : Console} {arguments : Arguments} {files after : FileTree}
  {generation : Generation} {discovery : Discovery} {failure : Failure} {words : String}

theorem run_of_generate (requested : arguments.request files = .ok (.generate generation)) :
    arguments.run console files = generation.run console files := by
  rw [Arguments.run, requested]

theorem run_of_discover (requested : arguments.request files = .ok (.discover discovery)) :
    arguments.run console files = discovery.run console files := by
  rw [Arguments.run, requested]

theorem run_of_refused {fault : ConfigFault}
    (requested : arguments.request files = .error (.config fault)) :
    arguments.run console files = .failed console files "" (.config fault) := by
  rw [Arguments.run, requested]

theorem explains_of_explanation (explanation : arguments.Explanation console files words) :
    (arguments.run console files).Explains words := by
  cases explanation with
  | refused requested shown =>
    rw [run_of_refused requested]
    exact explains_failed files "" rfl shown
  | failed requested fails reported shown =>
    obtain ⟨output, ran⟩ := run_of_fails fails
    rw [run_of_generate requested, ran]
    exact explains_failed _ output reported shown
  | missing requested command shown loaded absent =>
    rw [run_of_discover requested]
    exact explains_of_absent command shown loaded absent

theorem escaped_of_unread (unread : arguments.Unread files failure)
    (started : ∀ generation, arguments.request files = .ok (.generate generation) →
      console.fault? generation.parsing = none) :
    (arguments.run console files).escaped = some failure := by
  cases unread with
  | discovering requested loaded =>
    rw [run_of_discover requested, run_of_unloaded loaded]
    rfl
  | @generating generation fault requested loaded =>
    obtain ⟨output, ran⟩ := run_of_fails (.unread (started generation requested) loaded)
    have silent : (Failure.ofLoad (.content (.document (.lookup fault)))).manner.report? = none :=
      report?_eq_none_iff.2 ⟨fault, rfl⟩
    rw [run_of_generate requested, ran, Run.failed, silent]
    rfl

theorem escaped_of_unreported (unreported : arguments.Unreported console files failure) :
    (arguments.run console files).escaped = some failure := by
  cases unreported with
  | unseen requested =>
    rw [Arguments.run, requested]
    rfl
  | nameless requested =>
    rw [Arguments.run, requested]
    rfl
  | unread unread started => exact escaped_of_unread unread started
  | refused requested silent =>
    rw [run_of_refused requested]
    exact escaped_of_hidden files "" rfl silent
  | found requested loaded finds silent =>
    rw [run_of_discover requested, run_of_finds loaded finds, Run.tell, silent]
  | failed requested fails reported silent =>
    obtain ⟨output, ran⟩ := run_of_fails fails
    rw [run_of_generate requested, ran]
    exact escaped_of_hidden _ output reported silent

theorem unreported_of_fails {fault : LookupFault}
    (requested : arguments.request files = .ok (.generate generation))
    (fails : generation.Fails console files after (.content (.document (.lookup fault)))) :
    arguments.Unreported console files (.content (.document (.lookup fault))) := by
  generalize same : Failure.content (.document (.lookup fault)) = failure at fails
  cases fails with
  | @unread cause started loaded =>
    cases cause with
    | file cause => cases same
    | content cause =>
      cases same
      refine .unread (.generating requested loaded) fun other again => ?_
      cases requested.symm.trans again
      exact started
  | _ => cases same

inductive Arguments.Ends (console : Console) (arguments : Arguments) (files : FileTree) : Prop
  | returns (returns : (arguments.run console files).Returns)
  | explained {words : String} (explanation : arguments.Explanation console files words)
  | unreported {failure : Failure} (unreported : arguments.Unreported console files failure)

theorem generation_ends (requested : arguments.request files = .ok (.generate generation)) :
    arguments.Ends console files := by
  rcases fails_or_succeeds console generation files with
    ⟨after, failure, fails⟩ | ⟨records, outcomes, after, written, succeeds⟩
  · cases reported : failure.manner.report? with
    | none =>
      obtain ⟨fault, rfl⟩ := report?_eq_none_iff.1 reported
      exact .unreported (unreported_of_fails requested fails)
    | some texts =>
      rcases tell_cases console texts with shown | ⟨hidden, silent⟩
      · exact .explained (.failed requested fails reported shown)
      · exact .unreported (.failed requested fails reported silent)
  · obtain ⟨output, ran⟩ := run_of_succeeds succeeds
    refine .returns ?_
    rw [run_of_generate requested, ran]
    exact ⟨rfl, rfl⟩

theorem discovery_ends (requested : arguments.request files = .ok (.discover discovery)) :
    arguments.Ends console files := by
  cases loaded : loadRegistry files discovery.input with
  | error fault =>
    refine .unreported (.unread (.discovering requested loaded) fun generation other => ?_)
    cases requested.symm.trans other
  | ok records =>
    by_cases absent : ∃ name, discovery.command = .info ∧ discovery.record = some name ∧
        ∀ record ∈ records, record.name ≠ name
    · obtain ⟨name, command, shown, absent⟩ := absent
      exact .explained (.missing requested command shown loaded absent)
    · obtain ⟨text, finds⟩ : ∃ text, discovery.Finds records text := by
        refine finds_of_present records fun command => ?_
        obtain ⟨name, -, shown, -⟩ := record_of_info requested command
        refine ⟨name, shown, ?_⟩
        by_contra missing
        exact absent ⟨name, command, shown, fun record member same =>
          missing ⟨record, member, same⟩⟩
      cases silent : console.fault? text with
      | some hidden => exact .unreported (.found requested loaded finds silent)
      | none =>
        refine .returns ?_
        rw [run_of_discover requested, run_of_finds loaded finds, Run.tell, silent]
        exact ⟨rfl, rfl⟩

theorem run_ends (console : Console) (arguments : Arguments) (files : FileTree) :
    arguments.Ends console files := by
  cases requested : arguments.request files with
  | error fault =>
    cases fault with
    | config fault =>
      rcases tell_cases console fault.lines with shown | ⟨hidden, silent⟩
      · exact .explained (.refused requested shown)
      · exact .unreported (.refused requested silent)
    | file fault => exact .unreported (.unseen requested)
    | nullCharacter => exact .unreported (.nameless requested)
  | ok request =>
    cases request with
    | generate generation => exact generation_ends requested
    | discover discovery => exact discovery_ends requested

/-- In an ordinary tree, with a console that shows everything and paths that the system takes, only
failures to read the input go without words. -/
theorem unread_of_unreported (ordinary : files.Ordinary)
    (shows : ∀ text, console.fault? text = none)
    (legal : ∀ path ∈ arguments.paths, path.hasNull = false)
    (unreported : arguments.Unreported console files failure) : arguments.Unread files failure := by
  have shown (texts : List String) : texts.findSome? console.fault? = none :=
    List.findSome?_eq_none_iff.2 fun text _ => shows text
  cases unreported with
  | unread unread started => exact unread
  | unseen requested => exact absurd requested (request_ne_file ordinary.existence_ne_error _)
  | nameless requested => exact absurd requested (request_ne_nullCharacter legal)
  | refused requested silent =>
    rw [shown] at silent
    cases silent
  | found requested loaded finds silent =>
    rw [shows] at silent
    cases silent
  | failed requested fails reported silent =>
    rw [shown] at silent
    cases silent

/-- The failures that end a run without a word are those of a discovery to load its registry, those
of a generation to know the encoding of its input, those of the system to let an input be looked for
or an output be named, and those of the console to show what there is to tell. Every other run
returns or tells what goes wrong; a generation words each failure that lies in files as an error. -/
theorem run_explains (rule : TailRule) (console : Console) (line : List String) (files : FileTree)
    (arguments : Arguments) (parsed : parseArguments rule line = .ok arguments) :
    (∀ failure, (runCommand rule console line files).escaped = some failure ↔
      arguments.Unreported console files failure) ∧
    (files.Ordinary → (∀ text, console.fault? text = none) →
      (∀ path ∈ arguments.paths, path.hasNull = false) →
        ∀ failure, (runCommand rule console line files).escaped = some failure ↔
          arguments.Unread files failure) ∧
    ((runCommand rule console line files).escaped = none →
      (runCommand rule console line files).exitCode = 0 ∨
        ∃ words, arguments.Explanation console files words) ∧
    (∀ words, arguments.Explanation console files words →
      (runCommand rule console line files).Explains words) ∧
    ∀ generation after failure, arguments.request files = .ok (.generate generation) →
      generation.Fails console files after failure → failure.InFile →
        console.fault? s!"Error: {failure.message}\n" = none →
          (runCommand rule console line files).Explains s!"Error: {failure.message}\n" := by
  have ran : runCommand rule console line files = arguments.run console files := by
    rw [runCommand, parsed]
  rw [ran]
  have ends := run_ends console arguments files
  have escapes (failure : Failure) : (arguments.run console files).escaped = some failure ↔
      arguments.Unreported console files failure := by
    refine ⟨fun escaped => ?_, escaped_of_unreported⟩
    cases ends with
    | returns returns =>
      rw [returns.2] at escaped
      cases escaped
    | explained explanation =>
      rw [(explains_of_explanation explanation).ends.2] at escaped
      cases escaped
    | unreported unreported =>
      rw [escaped_of_unreported unreported] at escaped
      cases escaped
      exact unreported
  refine ⟨escapes, fun ordinary shows legal failure => ?_, fun silent => ?_,
    fun words => explains_of_explanation, ?_⟩
  · refine (escapes failure).trans ⟨unread_of_unreported ordinary shows legal, fun unread => ?_⟩
    exact .unread unread fun generation _ => shows generation.parsing
  · cases ends with
    | returns returns => exact .inl returns.1
    | explained explanation => exact .inr ⟨_, explanation⟩
    | unreported unreported =>
      rw [escaped_of_unreported unreported] at silent
      cases silent
  · intro generation after failure requested fails inFile shown
    have explanation := explains_of_explanation
      (.failed requested fails (report?_of_inFile inFile) (List.forall_mem_singleton.2 shown))
    rwa [String.join_cons, String.join_nil, String.append_empty] at explanation

end Runs

theorem readDocument_empty :
    readDocument ByteArray.empty = .error (.malformed .noElement 1 0) := by
  have octets : (ByteArray.empty.extract 0 3).toList = [] := by decide +kernel
  have decoded : Encoding.utf8.decode ByteArray.empty = ([], .complete) := decodeUtf8_toUTF8 ""
  have undeclared : scanDocumentDeclaration [] = .ok none := by rfl
  have rootless : readRoot ByteArray.empty.size .complete false [] = .error ⟨.noElement, []⟩ := by
    rw [readRoot, prologTokens]
    rfl
  rw [readDocument, Encoding.detect?, octets]
  dsimp only
  rw [decoded, if_pos rfl]
  dsimp only
  rw [undeclared]
  dsimp only
  rw [rootless]
  rfl

theorem loadRegistry_empty :
    loadRegistry (soleFile ByteArray.empty) { parts := ["in.xml"] } =
      .error (.content (.document (.malformed .noElement 1 0))) := by
  have found : (soleFile ByteArray.empty).read { parts := ["in.xml"] } = .ok ByteArray.empty := rfl
  rw [loadRegistry, found]
  dsimp only
  rw [readRecords, readDocument_empty]

theorem run_explains_empty :
    parseArguments .refuse ["--input", "in.xml"] = .ok inputAlone ∧
      (runCommand .refuse .unicode ["--input", "in.xml"] (soleFile ByteArray.empty)).Explains
        "Error: no element found: line 1, column 0\n" := by
  have words : wordsOfLine ["--input", "in.xml"] =
      .ok [⟨"--input", .flag .input "--input" none⟩, ⟨"in.xml", .value⟩] := by
    decide +kernel
  have parsed : parseArguments .refuse ["--input", "in.xml"] = .ok inputAlone := by
    rw [parseArguments, words]
    dsimp only
    rw [readOn_option rfl rfl, readOn_nil]
    rfl
  have requested : inputAlone.request (soleFile ByteArray.empty) =
      .ok (.generate ⟨{ parts := ["in.xml"] }, { parts := ["generated"] }, []⟩) :=
    request_unselected rfl (by decide) (by decide) rfl (by decide) (by decide)
  exact ⟨parsed, (run_explains _ .unicode _ _ _ parsed).2.2.2.2 _ _ _ requested
    (.unread (fault?_unicode _) loadRegistry_empty) (.malformed .noElement 1 0) (fault?_unicode _)⟩

theorem not_run_explains :
    ¬ ∀ line files arguments, parseArguments .refuse line = .ok arguments →
      (runCommand .refuse .unicode line files).escaped = none := by
  intro explains
  have words : wordsOfLine ["--input", "in.xml", "--list-records"] =
      .ok [⟨"--input", .flag .input "--input" none⟩, ⟨"in.xml", .value⟩,
        ⟨"--list-records", .flag .listRecords "--list-records" none⟩] := by
    decide +kernel
  have parsed : parseArguments .refuse ["--input", "in.xml", "--list-records"] =
      .ok { inputAlone with listRecords := true } := by
    rw [parseArguments, words]
    dsimp only
    rw [readOn_option rfl rfl, readOn_flag rfl rfl, List.drop_zero, readOn_nil]
    rfl
  have requested : { inputAlone with listRecords := true }.request (soleFile ByteArray.empty) =
      .ok (.discover ⟨.listRecords, { parts := ["in.xml"] }, none, none⟩) := by
    rfl
  have silent := explains _ (soleFile ByteArray.empty) _ parsed
  rw [runCommand, parsed] at silent
  dsimp only at silent
  rw [escaped_of_unread (.discovering requested loadRegistry_empty)
    fun _ _ => fault?_unicode _] at silent
  cases silent

end RecordProjection.Command
