import RecordProjection.Proofs.Command.Effect
import RecordProjection.Proofs.Command.Reporting
import RecordProjection.Proofs.Registry.Readback
import RecordProjection.Proofs.Registry.Regeneration
import RecordProjection.Proofs.Report.Agreement
import RecordProjection.Proofs.Selector.Naming
import RecordProjection.Proofs.Text.Column

/-! What a generation tells of the registry it has written. The report is made from the outcomes
before anything is written, and it is true of the file: reading the file back gives as many records
as the total line says, named as the rows say, and the file has as many lines and octets as are
reported. -/

namespace RecordProjection
open Directive Files Markup Text

section LineFeeds

/-- A line feed is encoded by the octet for it, and no other character with that octet. -/
theorem count_utf8EncodeChar (c : Char) :
    (String.utf8EncodeChar c).count 10 = if c = '\n' then 1 else 0 := by
  have octet : ∀ number < 256, UInt8.ofNat number = 10 ↔ number = 10 := by
    intro number small
    rw [← UInt8.toNat_inj, UInt8.toNat_ofNat', Nat.mod_eq_of_lt small]
    rfl
  have lineFeed : c = '\n' ↔ c.val.toNat = 10 := by
    rw [← Char.val_inj, ← UInt32.toNat_inj]
    rfl
  rw [String.utf8EncodeChar]
  simp only [lineFeed]
  split
  · rename_i single
    have small : c.val.toNat < 256 := by omega
    simp only [List.count_singleton, beq_iff_eq, octet _ small]
  · rename_i several
    have other : ¬ c.val.toNat = 10 := by omega
    have large : ∀ number, 128 ≤ number → number < 256 → 10 ≠ UInt8.ofNat number := by
      intro number lower upper same
      have ten := (octet number upper).1 same.symm
      omega
    rw [if_neg other, List.count_eq_zero]
    split
    · simp only [List.mem_cons, List.not_mem_nil, or_false, not_or]
      exact ⟨large _ (by omega) (by omega), large _ (by omega) (by omega)⟩
    · split
      · simp only [List.mem_cons, List.not_mem_nil, or_false, not_or]
        exact ⟨large _ (by omega) (by omega), large _ (by omega) (by omega),
          large _ (by omega) (by omega)⟩
      · simp only [List.mem_cons, List.not_mem_nil, or_false, not_or]
        exact ⟨large _ (by omega) (by omega), large _ (by omega) (by omega),
          large _ (by omega) (by omega), large _ (by omega) (by omega)⟩

theorem octets_toUTF8 (text : String) :
    text.toUTF8.data.toList = text.toList.flatMap String.utf8EncodeChar := by
  conv_lhs => rw [← String.ofList_toList (s := text)]
  change (List.utf8Encode text.toList).data.toList = _
  rw [List.utf8Encode, List.data_toByteArray]

theorem count_toUTF8 (text : String) : text.toUTF8.data.toList.count 10 = lineCount text := by
  rw [octets_toUTF8, lineCount]
  induction text.toList with
  | nil => rfl
  | cons c rest ih =>
    rw [List.flatMap_cons, List.count_append, count_utf8EncodeChar, ih, List.count_cons,
      Nat.add_comm]
    simp only [beq_iff_eq]

end LineFeeds

section Rows

def Outcome.line (nameWidth : Nat) (outcome : Outcome) : String :=
  let front := "    " ++ padEnd outcome.name nameWidth ++ "  "
  match outcome.projections with
  | [] => front ++ outcome.status
  | names => front ++ padEnd outcome.status statusWidth ++ commaSeparated names

theorem endsSolid_status (outcome : Outcome) :
    outcome.status.toList ≠ [] ∧ EndsSolid outcome.status.toList := by
  unfold Outcome.status
  split
  · exact ⟨by decide, fun c last => by cases last; decide⟩
  · exact ⟨by decide, fun c last => by cases last; decide⟩

theorem row_eq_line (nameWidth : Nat) {outcome : Outcome}
    (named : ∀ name ∈ outcome.projections, isIdentifier name.toList = true) :
    outcome.row nameWidth = outcome.line nameWidth := by
  have solid : ∀ name ∈ outcome.projections, name.toList ≠ [] ∧ EndsSolid name.toList := by
    intro name member
    have lexeme := isLexeme_of_isIdentifier (named name member)
    exact ⟨lexeme.present, lexeme.endsSolid⟩
  obtain ⟨status, ends⟩ := endsSolid_status outcome
  unfold Outcome.row Outcome.line
  dsimp only
  split
  · rename_i none
    rw [none, trimEnd, padEnd.eq_1 outcome.status, commaSeparated, String.intercalate_nil,
      String.append_empty, ← String.append_assoc, String.toList_append, String.toList_append,
      trimRight_append (endsSolid_append status ends _),
      trimRight_blank fun _ => isBlank_of_mem_spaces, List.append_nil, ← String.toList_append,
      String.ofList_toList]
  · rename_i names some
    obtain ⟨last, lastSolid⟩ := endsSolid_commaSeparated solid some
    rw [trimEnd, String.toList_append, trimRight_eq_self (endsSolid_append last lastSolid _),
      ← String.toList_append, String.ofList_toList]

end Rows

section Outcomes
variable (selected : List String) (record : Record)

theorem names_outcome :
    (record.outcome selected).definitions.map Definition.name =
      record.name :: (record.outcome selected).projections := by
  unfold Record.outcome Outcome.projections Record.emitted
  dsimp only
  split
  · rfl
  · rfl

theorem isIdentifier_projections :
    ∀ name ∈ (record.outcome selected).projections, isIdentifier name.toList = true := by
  unfold Record.outcome Outcome.projections Record.emitted
  dsimp only
  split
  · intro name member
    obtain ⟨definition, projected, rfl⟩ := List.mem_map.1 member
    obtain ⟨spec, listed, rfl⟩ := List.mem_map.1 projected
    obtain ⟨entry, among, same⟩ := List.mem_map.1 (mem_allNames_of_mem_projections listed)
    obtain ⟨note, -, entries⟩ := List.mem_flatMap.1 among
    obtain ⟨_, read, inside⟩ := mem_listedNames entries
    obtain ⟨text, -, read⟩ := bind_eq_ok read
    change isIdentifier spec.name.toList = true
    rw [← same]
    exact isIdentifier_of_mem_nameList read entry inside
  · exact List.forall_mem_nil _

end Outcomes

theorem names_allDefinitions (selected : List String) (records : List Record) :
    (allDefinitions (records.map (Record.outcome selected))).map Definition.name =
      (records.map (Record.outcome selected)).flatMap fun outcome =>
        outcome.name :: outcome.projections := by
  rw [allDefinitions, List.map_flatMap, List.flatMap_map, List.flatMap_map]
  exact List.flatMap_congr fun record _ => names_outcome selected record

theorem length_flatMap_cons {α β : Type} (first : α → β) (others : α → List β)
    (values : List α) :
    (values.flatMap fun value => first value :: others value).length =
      values.length + (values.flatMap others).length := by
  induction values with
  | nil => rfl
  | cons value rest ih =>
    rw [List.flatMap_cons, List.flatMap_cons, List.length_append, ih, List.length_append,
      List.length_cons, List.length_cons]
    omega

def headingLines (label path : String) : List String :=
  ["Projection records generated:", "", s!"  Input:      {label}", s!"  Output:     {path}", "",
    "  Records:"]

def closingLines (outcomes : List Outcome) (written projected lines : Nat) : List String :=
  outcomes.map (Outcome.line (widest (outcomes.map Outcome.name))) ++
    ["", s!"  Total: {written} records written ({projectionCountText projected}), " ++
      s!"{withThousands lines} lines", ""]

theorem render_outcomes (selected : List String) (records : List Record) (label path : String)
    (lines : Nat) :
    let outcomes := records.map (Record.outcome selected)
    GenerationReport.render { label, outcomes, path, lineCount := lines } =
      joinLines (headingLines label path ++ closingLines outcomes (allDefinitions outcomes).length
        (outcomes.flatMap Outcome.projections).length lines) := by
  intro outcomes
  have rows : outcomes.map (Outcome.row (widest (outcomes.map Outcome.name))) =
      outcomes.map (Outcome.line (widest (outcomes.map Outcome.name))) :=
    List.map_congr_left <| List.forall_mem_map.2 fun record _ =>
      row_eq_line _ (isIdentifier_projections selected record)
  rw [GenerationReport.render]
  dsimp only
  rw [rows, List.append_assoc]
  rfl

section Stored
variable {tree after : FileTree} {directory : Path} {filename : String}
  {definitions : List Definition} {written : WrittenFile}

theorem read_of_storeRegistry
    (stored : storeRegistry tree directory filename definitions = (after, .ok written)) :
    after.read (directory.append (.ofText filename)) =
        .ok (registryDocument definitions).toUTF8 ∧
      written.lineCount = lineCount (registryDocument definitions) ∧
      written.byteCount = (registryDocument definitions).toUTF8.size := by
  rcases storeRegistry_cases stored with ⟨-, fault, failed⟩ | stores
  · cases failed
  · obtain ⟨grown, made, writes⟩ := stores.written
    obtain ⟨octets, back, rfl⟩ := map_eq_ok stores.result.symm
    have kept := FileTree.keeps_makeDirectories tree directory
    rw [made] at kept
    rw [storagePlace, ← kept.workingDirectory, ← FileTree.workingDirectory_of_write writes] at back
    obtain ⟨rfl, read⟩ := FileTree.read_of_write writes back
    exact ⟨read, rfl, rfl⟩

end Stored

namespace Command

theorem exitCode_failed (console : Console) (files : FileTree) (output : String)
    (failure : Failure) : (Run.failed console files output failure).exitCode = 1 := by
  unfold Run.failed
  split
  · rename_i texts _
    rcases tell_cases console texts with shown | ⟨fault, hidden⟩
    · rw [tell_of_shown console shown]
    · obtain ⟨printed, told⟩ := tell_of_hidden console hidden { output, exitCode := 1, files }
      rw [told]
  · rfl

section Generating
variable {console : Console} {generation : Generation} {files : FileTree} {records : List Record}

theorem succeeds_of_returns (loaded : loadRegistry files generation.input = .ok records)
    (returns : (generation.run console files).exitCode = 0) :
    ∃ outcomes after written,
      generation.Succeeds console files records outcomes after written := by
  rcases fails_or_succeeds console generation files with
    ⟨after, failure, fails⟩ | ⟨others, outcomes, after, written, succeeds⟩
  · obtain ⟨output, ran⟩ := run_of_fails fails
    rw [ran, exitCode_failed] at returns
    cases returns
  · cases loaded.symm.trans succeeds.loaded
    exact ⟨outcomes, after, written, succeeds⟩

/-- What a generation reports, and what is so of the file that it has written: the records `again`
are read back from its `octets`. -/
structure Run.ReportsOn (run : Run) (generation : Generation) (files : FileTree)
    (records : List Record) (outcomes : List Outcome) (written : WrittenFile) (octets : ByteArray)
    (again : List Record) : Prop where
  expanded : expandRecords records generation.selected = .ok outcomes
  stored : storeRegistry files generation.outputDirectory generation.input.name
    (allDefinitions outcomes) = (run.files, .ok written)
  file : run.files.read (generation.outputDirectory.append (.ofText generation.input.name)) =
    .ok octets
  content : readRecords octets = .ok again
  size : written.byteCount = octets.size
  /-- The numbers in the total line are those of the records in the file, of the records it has
  more than were loaded, and of its line feeds. -/
  output : ∃ before, run.output = before ++ joinLines (
    headingLines generation.input.name written.path.text ++
      closingLines outcomes again.length (again.length - records.length)
        (octets.data.toList.count 10))
  grouped : IsGrouped (toString (octets.data.toList.count 10)).toList
    (withThousands (octets.data.toList.count 10)).toList
  more : records.length ≤ again.length
  inputs : outcomes.map Outcome.name = records.map Record.name
  /-- The file has the record of each line, and then the projections on the line. -/
  names : again.map Record.name =
    outcomes.flatMap fun outcome => outcome.name :: outcome.projections
  /-- So the names on a line can be told apart. -/
  identifiers : ∀ outcome ∈ outcomes, ∀ name ∈ outcome.projections,
    isIdentifier name.toList = true

/-- The report of a generation is true of the file that was written. The bound is beyond every list
that a program can hold. -/
theorem report_of_file (loaded : loadRegistry files generation.input = .ok records)
    (short : ∀ record ∈ records, record.fields.length ≤ 10 ^ maxDigits)
    (returns : (generation.run console files).exitCode = 0) :
    ∃ outcomes written octets again,
      (generation.run console files).ReportsOn generation files records outcomes written octets
        again := by
  obtain ⟨outcomes, after, written, succeeds⟩ := succeeds_of_returns loaded returns
  obtain ⟨output, ran⟩ := run_of_succeeds succeeds
  have expanded := succeeds.expanded
  have stored := succeeds.stored
  obtain ⟨-, rfl⟩ := quiet_of_expandRecords expanded
  obtain ⟨octets, -, accepted⟩ := octets_of_loadRegistry loaded
  have promised := promised_of_readRecords accepted
  -- The definitions that are written are those of the outcomes, one record after the other.
  have definitions : allDefinitions (records.map (Record.outcome generation.selected)) =
      emittedFor generation.selected records := List.flatMap_map ..
  obtain ⟨read, lines, size⟩ := read_of_storeRegistry stored
  obtain ⟨again, readBack, names⟩ :=
    names_generated generation.selected promised short
  rw [← definitions] at readBack names
  have counted := congrArg List.length names
  rw [names_allDefinitions] at names
  have total := congrArg List.length names
  rw [List.length_map, List.length_map] at counted
  rw [List.length_map, length_flatMap_cons, List.length_map] at total
  have projected : again.length - records.length = ((records.map
      (Record.outcome generation.selected)).flatMap Outcome.projections).length := by omega
  rw [ran]
  exact ⟨_, written, _, again, {
    expanded
    stored
    file := read
    content := readBack
    size
    output := ⟨output, by
      rw [Generation.report, render_outcomes, ← counted, ← projected, lines, ← count_toUTF8]⟩
    grouped := isGrouped_withThousands _
    more := by omega
    inputs := List.map_map
    names
    identifiers := List.forall_mem_map.2 fun record _ =>
      isIdentifier_projections generation.selected record }⟩

end Generating

theorem report_of_file_stored :
    loadRegistry (soleFile storedOctets) soleGeneration.input = .ok storedRecords ∧
      (∀ record ∈ storedRecords, record.fields.length ≤ 10 ^ maxDigits) ∧
      (soleGeneration.run .unicode (soleFile storedOctets)).exitCode = 0 ∧
      ∃ outcomes written octets again,
        (soleGeneration.run .unicode (soleFile storedOctets)).ReportsOn soleGeneration
          (soleFile storedOctets) storedRecords outcomes written octets again ∧
        again.map Record.name = ["Row", "Cell", "Cell", "Row"] := by
  have few : ∀ record ∈ storedRecords, record.fields.length ≤ 10 := by decide +kernel
  have short : ∀ record ∈ storedRecords, record.fields.length ≤ 10 ^ maxDigits :=
    fun record member => (few record member).trans (Nat.le_self_pow (by decide) 10)
  have quiet : reportedIn [] storedRecords = [] := by decide +kernel
  obtain ⟨after, written, succeeds⟩ :=
    succeeds_sole readRecords_storedOctets (expandRecords_of_quiet quiet)
  have returns : (soleGeneration.run .unicode (soleFile storedOctets)).exitCode = 0 := by
    obtain ⟨output, ran⟩ := run_of_succeeds succeeds
    rw [ran]
  obtain ⟨outcomes, written, octets, again, reports⟩ :=
    report_of_file succeeds.loaded short returns
  have same := Except.ok.inj (reports.expanded.symm.trans (expandRecords_of_quiet quiet))
  refine ⟨succeeds.loaded, short, returns, outcomes, written, octets, again, reports, ?_⟩
  rw [reports.names, same]
  decide +kernel

end Command

end RecordProjection
