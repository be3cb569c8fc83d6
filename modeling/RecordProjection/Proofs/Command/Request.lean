import RecordProjection.Command.Request
import RecordProjection.Proofs.Reading
import RecordProjection.Proofs.Text.Name

/-! What requests come from. Arguments that ask to look into a registry never generate one, as long
as no option is given an empty text: an empty text counts as if the option had not been given. -/

namespace RecordProjection.Command
open Files Text

theorem saysSomething_eq_false_iff (option : Option String) :
    Arguments.saysSomething option = false ↔ option = none ∨ option = some "" := by
  cases option <;> simp [Arguments.saysSomething]

theorem asksToDiscover_eq_false_iff (arguments : Arguments) :
    arguments.asksToDiscover = false ↔
      arguments.listRecords = false ∧ (arguments.info = none ∨ arguments.info = some "") := by
  rw [Arguments.asksToDiscover, Bool.or_eq_false_iff, saysSomething_eq_false_iff]

theorem asksToDiscover_eq_true_iff {arguments : Arguments} :
    arguments.asksToDiscover = true ↔
      arguments.listRecords = true ∨ ∃ name, arguments.info = some name ∧ name ≠ "" := by
  rw [Arguments.asksToDiscover, Bool.or_eq_true]
  refine or_congr_right ?_
  cases arguments.info <;> simp [Arguments.saysSomething]

theorem validName_eq_ok_iff {name result : String} :
    validName name = .ok result ↔ isName name = true ∧ name = result := by
  unfold validName
  split <;> simp_all

theorem mapM_validName_eq_ok {given record : Option String}
    (valid : given.mapM validName = .ok record) :
    record = given ∧ ∀ name, given = some name → isName name = true := by
  cases given with
  | none =>
    cases valid
    exact ⟨rfl, nofun⟩
  | some name =>
    rw [Option.mapM_some] at valid
    obtain ⟨result, own, rfl⟩ := map_eq_ok valid
    obtain ⟨named, rfl⟩ := validName_eq_ok_iff.1 own
    refine ⟨rfl, ?_⟩
    rintro other ⟨⟩
    exact named

section Requests
variable {arguments : Arguments} {tree : FileTree}

theorem request_eq_ok_iff {request : Request} :
    arguments.request tree = .ok request ↔
      ∃ names input, selectedNames arguments.records = .ok names ∧
        (Arguments.saysSomething arguments.filter && !arguments.listRecords) = false ∧
        (!names.isEmpty && arguments.asksToDiscover) = false ∧
        arguments.existingInput tree = .ok input ∧
        (if arguments.asksToDiscover then
            ((arguments.discovery input).map .discover).mapError .config
          else (arguments.generation input names tree).map .generate) = .ok request := by
  constructor
  · intro requested
    unfold Arguments.request at requested
    split at requested
    · cases requested
    rename_i names selected
    split at requested
    · cases requested
    rename_i listing
    split at requested
    · cases requested
    rename_i alone
    split at requested
    · cases requested
    rename_i input existing
    rw [Bool.not_eq_true] at listing alone
    exact ⟨names, input, selected, listing, alone, existing, requested⟩
  · rintro ⟨names, input, selected, listing, alone, existing, requested⟩
    rw [Arguments.request, selected]
    dsimp only
    rw [listing, alone, if_neg Bool.false_ne_true, if_neg Bool.false_ne_true, existing]
    exact requested

theorem input_of_existingInput {input : Path}
    (existing : arguments.existingInput tree = .ok input) : arguments.input = some input := by
  unfold Arguments.existingInput at existing
  split at existing
  · cases existing
  · rename_i path given
    split at existing
    · cases existing
    · split at existing
      · cases existing
        exact given
      · cases existing

/-- What keeps arguments from making a request that is nothing wrong with them: that the input
cannot be looked for, or the output cannot be named. -/
theorem request_eq_error {fault : RequestFault} (failed : arguments.request tree = .error fault) :
    (∃ cause, fault = .config cause) ∨ arguments.existingInput tree = .error fault ∨
      ∃ names input, arguments.existingInput tree = .ok input ∧
        arguments.generation input names tree = .error fault := by
  unfold Arguments.request at failed
  split at failed
  · cases failed
    exact .inl ⟨_, rfl⟩
  rename_i names selected
  split at failed
  · cases failed
    exact .inl ⟨_, rfl⟩
  split at failed
  · cases failed
    exact .inl ⟨_, rfl⟩
  split at failed
  · rename_i existing
    cases failed
    exact .inr (.inl existing)
  rename_i input existing
  split at failed
  · cases discovered : arguments.discovery input with
    | error cause =>
      rw [discovered] at failed
      cases failed
      exact .inl ⟨_, rfl⟩
    | ok discovery =>
      rw [discovered] at failed
      cases failed
  · refine .inr (.inr ⟨names, input, existing, ?_⟩)
    cases generated : arguments.generation input names tree with
    | error cause =>
      rw [generated] at failed
      cases failed
      rfl
    | ok generation =>
      rw [generated] at failed
      cases failed

theorem generation_eq_error {input : Path} {names : List String} {fault : RequestFault}
    (failed : arguments.generation input names tree = .error fault) :
    (∃ cause, fault = .config cause) ∨
      fault = .nullCharacter ∧ (arguments.outputPath input).hasNull = true := by
  unfold Arguments.generation at failed
  dsimp only at failed
  split at failed
  · rename_i null
    cases failed
    exact .inr ⟨rfl, null⟩
  · split at failed
    · cases failed
      exact .inl ⟨_, rfl⟩
    · split at failed
      · cases failed
        exact .inl ⟨_, rfl⟩
      · cases failed

theorem request_ne_file (seen : ∀ path fault, tree.existence path ≠ .error fault)
    (fault : FileFault) : arguments.request tree ≠ .error (.file fault) := by
  intro failed
  rcases request_eq_error failed with ⟨_, other⟩ | unseen | ⟨_, _, -, generated⟩
  · cases other
  · unfold Arguments.existingInput at unseen
    split at unseen
    · cases unseen
    · split at unseen
      · rename_i failed
        exact seen _ _ failed
      · split at unseen <;> cases unseen
  · rcases generation_eq_error generated with ⟨_, other⟩ | ⟨other, -⟩ <;> cases other

theorem request_ne_nullCharacter (legal : ∀ path ∈ arguments.paths, path.hasNull = false) :
    arguments.request tree ≠ .error .nullCharacter := by
  intro failed
  rcases request_eq_error failed with ⟨_, other⟩ | unseen | ⟨_, input, existing, generated⟩
  · cases other
  · unfold Arguments.existingInput at unseen
    split at unseen
    · cases unseen
    · split at unseen
      · cases unseen
      · split at unseen <;> cases unseen
  · rcases generation_eq_error generated with ⟨_, other⟩ | ⟨-, null⟩
    · cases other
    · have among : arguments.outputPath input ∈ arguments.paths := by
        rw [Arguments.paths, input_of_existingInput existing]
        exact List.mem_cons_of_mem _ List.mem_cons_self
      rw [legal _ among] at null
      cases null

theorem generation_of_request {generation : Generation}
    (requested : arguments.request tree = .ok (.generate generation)) :
    (Arguments.saysSomething arguments.filter = false ∧ arguments.asksToDiscover = false) ∧
      ∃ names input, selectedNames arguments.records = .ok names ∧
        arguments.existingInput tree = .ok input ∧
        arguments.generation input names tree = .ok generation := by
  obtain ⟨names, input, selected, listing, -, existing, requested⟩ := request_eq_ok_iff.1 requested
  split at requested
  · obtain ⟨discovery, -, other⟩ := map_eq_ok (mapError_eq_ok requested)
    cases other
  · rename_i generates
    obtain ⟨other, made, same⟩ := map_eq_ok requested
    cases same
    rw [Bool.not_eq_true] at generates
    have listless := ((asksToDiscover_eq_false_iff arguments).1 generates).1
    rw [listless, Bool.not_false, Bool.and_true] at listing
    exact ⟨⟨listing, generates⟩, names, input, selected, existing, made⟩

theorem request_unselected {input : Path} (selected : selectedNames arguments.records = .ok [])
    (unfiltered : Arguments.saysSomething arguments.filter = false)
    (generates : arguments.asksToDiscover = false)
    (existing : arguments.existingInput tree = .ok input)
    (legal : (arguments.outputPath input).hasNull = false)
    (different : (arguments.outputPath input).location tree.workingDirectory ≠
      input.location tree.workingDirectory) :
    arguments.request tree = .ok (.generate ⟨input, arguments.outputDirectory, []⟩) := by
  have names : sortedDistinct [] = [] := by
    rw [sortedDistinct, List.eraseDups_nil, List.mergeSort_nil]
  have made : arguments.generation input [] tree = .ok ⟨input, arguments.outputDirectory, []⟩ := by
    rw [Arguments.generation, legal, if_neg Bool.false_ne_true, if_neg different, List.mapM_nil]
    exact congrArg (fun names => Except.ok (Generation.mk input _ names)) names
  refine request_eq_ok_iff.2 ⟨[], input, selected, ?_, ?_, existing, ?_⟩
  · rw [unfiltered, Bool.false_and]
  · rw [generates, Bool.and_false]
  · rw [generates, if_neg Bool.false_ne_true, made]
    rfl

theorem discovery_of_request {discovery : Discovery}
    (requested : arguments.request tree = .ok (.discover discovery)) :
    selectedNames arguments.records = .ok [] ∧ arguments.asksToDiscover = true ∧
      ∃ input, arguments.existingInput tree = .ok input ∧
        arguments.discovery input = .ok discovery := by
  obtain ⟨names, input, selected, -, alone, existing, requested⟩ := request_eq_ok_iff.1 requested
  split at requested
  · rename_i discovers
    obtain ⟨other, made, same⟩ := map_eq_ok (mapError_eq_ok requested)
    cases same
    rw [discovers, Bool.and_true, Bool.not_eq_false', List.isEmpty_iff] at alone
    exact ⟨alone ▸ selected, discovers, input, existing, made⟩
  · obtain ⟨generation, -, other⟩ := map_eq_ok requested
    cases other

theorem discovery_eq_ok {input : Path} {discovery : Discovery}
    (made : arguments.discovery input = .ok discovery) :
    discovery.record = arguments.info ∧
      (discovery.command = .info ↔ arguments.listRecords = false) ∧
      ∀ name, arguments.info = some name → isName name = true := by
  unfold Arguments.discovery at made
  dsimp only at made
  split at made
  · cases made
  · rename_i record valid
    obtain ⟨given, named⟩ := mapM_validName_eq_ok valid
    cases made
    refine ⟨given, ?_, named⟩
    cases arguments.listRecords <;> simp

theorem record_of_info {discovery : Discovery}
    (requested : arguments.request tree = .ok (.discover discovery))
    (command : discovery.command = .info) :
    ∃ name, arguments.info = some name ∧ discovery.record = some name ∧ isName name = true := by
  obtain ⟨-, discovers, input, -, made⟩ := discovery_of_request requested
  obtain ⟨shown, informs, valid⟩ := discovery_eq_ok made
  rcases asksToDiscover_eq_true_iff.1 discovers with listed | ⟨name, given, -⟩
  · rw [informs.1 command] at listed
    cases listed
  · exact ⟨name, given, shown.trans given, valid name given⟩

/-- Without a listing, empty texts ask for what no texts ask for. -/
theorem request_of_empty (listless : arguments.listRecords = false) :
    { arguments with info := some "", filter := some "" }.request tree =
      { arguments with info := none, filter := none }.request tree := by
  have discovers (info filter : Option String) (silent : Arguments.saysSomething info = false) :
      { arguments with info, filter }.asksToDiscover = false := by
    rw [Arguments.asksToDiscover, listless, silent, Bool.or_false]
  have empty : Arguments.saysSomething (some "") = false := by decide
  have missing : Arguments.saysSomething none = false := by decide
  unfold Arguments.request
  rw [discovers _ _ empty, discovers _ _ missing, empty, missing]
  rfl

/-- Arguments make a generation only if no option asks for anything else, and a discovery only if
one does and no record is selected. The record to show has a name that directives can speak of, but
for a line feed behind it. An option with an empty text does not ask for anything. -/
theorem kind_of_request (arguments : Arguments) (tree : FileTree) :
    (∀ generation, arguments.request tree = .ok (.generate generation) →
      arguments.listRecords = false ∧ (arguments.info = none ∨ arguments.info = some "") ∧
        (arguments.filter = none ∨ arguments.filter = some "")) ∧
    (∀ discovery, arguments.request tree = .ok (.discover discovery) →
      (arguments.listRecords = true ∨ ∃ name, arguments.info = some name ∧ name ≠ "") ∧
        selectedNames arguments.records = .ok [] ∧
        (discovery.command = .info → ∃ name,
          arguments.info = some name ∧ discovery.record = some name ∧
            (isIdentifier name.toList = true ∨
              ∃ line : String, isIdentifier line.toList = true ∧ name = line ++ "\n"))) ∧
    (arguments.listRecords = false →
      { arguments with info := some "", filter := some "" }.request tree =
        { arguments with info := none, filter := none }.request tree) := by
  refine ⟨fun generation requested => ?_, fun discovery requested => ?_, request_of_empty⟩
  · obtain ⟨⟨unfiltered, generates⟩, -⟩ := generation_of_request requested
    obtain ⟨listless, uninformed⟩ := (asksToDiscover_eq_false_iff arguments).1 generates
    exact ⟨listless, uninformed, (saysSomething_eq_false_iff _).1 unfiltered⟩
  · obtain ⟨unselected, discovers, -⟩ := discovery_of_request requested
    refine ⟨asksToDiscover_eq_true_iff.1 discovers, unselected, fun command => ?_⟩
    obtain ⟨name, given, shown, named⟩ := record_of_info requested command
    exact ⟨name, given, shown, (isName_iff name).1 named⟩

end Requests

section Words
variable {rule : TailRule} {reading entered : Reading} {flag : Flag} {spelling text : String}
  {words : List Word} {count : Nat}

theorem readOn_nil : reading.readOn rule [] = .ok reading := by
  rw [Reading.readOn]

theorem readOn_flag (counted : valueCount? flag.arity words = some count)
    (enters : reading.enter flag ((words.take count).map Word.text) = .ok entered) :
    reading.readOn rule (⟨text, .flag flag spelling none⟩ :: words) =
      entered.readOn rule (words.drop count) := by
  rw [Reading.readOn]
  dsimp only
  rw [counted]
  dsimp only
  rw [enters]

theorem readOn_option {value : String} (one : flag.arity = .one)
    (enters : reading.enter flag [value] = .ok entered) :
    reading.readOn rule (⟨text, .flag flag spelling none⟩ :: ⟨value, .value⟩ :: words) =
      entered.readOn rule words := by
  have counted : valueCount? flag.arity (⟨value, .value⟩ :: words) = some 1 := by
    rw [one, valueCount?, List.takeWhile_cons_of_pos rfl]
    rfl
  rw [readOn_flag counted enters, List.drop_one, List.tail_cons]

end Words

def soleFile (octets : ByteArray) : FileTree where
  entries := [(["in.xml", "w"], .file octets), (["w"], .directory)]
  workingDirectory := ["w"]

def inputAlone : Arguments where
  input := some { parts := ["in.xml"] }

theorem kind_of_request_shown :
    let arguments := { inputAlone with info := some "Plain" }
    let discovery : Discovery := ⟨.info, { parts := ["in.xml"] }, none, some "Plain"⟩
    arguments.request (soleFile ByteArray.empty) = .ok (.discover discovery) ∧
      selectedNames arguments.records = .ok [] := by
  intro arguments discovery
  have requested : arguments.request (soleFile ByteArray.empty) = .ok (.discover discovery) := rfl
  exact ⟨requested, ((kind_of_request arguments _).2.1 discovery requested).2.1⟩

theorem not_kind_of_request :
    ¬ ∀ (arguments : Arguments) (tree : FileTree) (generation : Generation),
      arguments.request tree = .ok (.generate generation) →
        arguments.info = none ∧ arguments.filter = none := by
  intro only
  have requested :
      { inputAlone with info := some "", filter := some "" }.request (soleFile ByteArray.empty) =
        .ok (.generate ⟨{ parts := ["in.xml"] }, { parts := ["generated"] }, []⟩) :=
    request_unselected rfl (by decide) (by decide) rfl (by decide) (by decide)
  exact absurd (only _ _ _ requested).1 (Option.some_ne_none "")

end RecordProjection.Command
