import RecordProjection.Proofs.Command.Performing
import RecordProjection.Proofs.Command.Request
import RecordProjection.Proofs.Files.Ordinary
import RecordProjection.Proofs.Registry.Storage

/-! What a run does to files. A run changes one file at most, which has the place that the request
names and not that of the input, and it writes a whole document there. After that there is only the
report: a run that does not return has left all files as they were, unless the file cannot be read
back or the console does not show the report. -/

namespace RecordProjection
open Files

def storagePlace (tree : FileTree) (directory : Path) (filename : String) : Location :=
  (directory.append (.ofText filename)).location tree.workingDirectory

section Storage
variable {tree after : FileTree} {directory : Path} {filename : String}
  {definitions : List Definition} {result : Except FileFault WrittenFile}

/-- A storing that writes a file, with what comes of reading it back. -/
structure Stores (tree : FileTree) (directory : Path) (filename : String)
    (definitions : List Definition) (after : FileTree) (result : Except FileFault WrittenFile) :
    Prop where
  written : ∃ grown, tree.makeDirectories directory = (grown, none) ∧
    grown.write (directory.append (.ofText filename)) (registryDocument definitions).toUTF8 =
      .ok after
  result : result =
    (after.readPlace (storagePlace tree directory filename)).map fun octets => {
      filename
      path := .ofLocation (storagePlace tree directory filename)
      lineCount := lineCount (registryDocument definitions)
      byteCount := octets.size }

theorem storeRegistry_cases
    (stored : storeRegistry tree directory filename definitions = (after, result)) :
    (tree.Keeps after ∧ ∃ fault, result = .error fault) ∨
      Stores tree directory filename definitions after result := by
  have kept := FileTree.keeps_makeDirectories tree directory
  unfold storeRegistry at stored
  split at stored
  · rename_i grown fault made
    cases stored
    rw [made] at kept
    exact .inl ⟨kept, fault, rfl⟩
  · rename_i grown made
    rw [made] at kept
    dsimp only at stored
    split at stored
    · rename_i fault refused
      cases stored
      exact .inl ⟨kept, fault, rfl⟩
    · rename_i written writes
      have place : (directory.append (.ofText filename)).location written.workingDirectory =
          storagePlace tree directory filename := by
        rw [FileTree.workingDirectory_of_write writes, kept.workingDirectory, storagePlace]
      rw [place] at stored
      refine .inr ⟨?_, ?_⟩
      · split at stored <;> cases stored <;> exact ⟨grown, made, writes⟩
      · split at stored
        · rename_i unread
          cases stored
          rw [unread]
          rfl
        · rename_i back
          cases stored
          rw [back]
          rfl

theorem Stores.readPlace (stores : Stores tree directory filename definitions after result)
    (ordinary : tree.Ordinary) :
    after.readPlace (storagePlace tree directory filename) =
      .ok (registryDocument definitions).toUTF8 := by
  obtain ⟨grown, made, writes⟩ := stores.written
  have kept := FileTree.keeps_makeDirectories tree directory
  have grownOrdinary := FileTree.ordinary_makeDirectories ordinary directory
  rw [made] at kept grownOrdinary
  have back := FileTree.readPlace_of_write grownOrdinary writes
  rwa [FileTree.workingDirectory_of_write writes, kept.workingDirectory] at back

theorem octets_of_loadRegistry {path : Path} {records : List Record}
    (loaded : loadRegistry tree path = .ok records) :
    ∃ octets, tree.content? (path.location tree.workingDirectory) = some octets ∧
      readRecords octets = .ok records := by
  unfold loadRegistry at loaded
  split at loaded
  · cases loaded
  · rename_i octets found
    split at loaded
    · cases loaded
    · rename_i read
      cases loaded
      exact ⟨octets, FileTree.content?_of_read found, read⟩

end Storage

namespace Command

def Generation.place (generation : Generation) (files : FileTree) : Location :=
  storagePlace files generation.outputDirectory generation.input.name

section Generating
variable {console : Console} {generation : Generation} {files after : FileTree}
  {failure : Failure} {records : List Record} {outcomes : List Outcome} {written : WrittenFile}

end Generating

section Requests
variable {arguments : Arguments} {generation : Generation} {files : FileTree}

end Requests

def soleInput : Path := { parts := ["..", "w", "in.xml"] }

def soleArguments : Arguments where
  input := some soleInput
  outputDirectory := { parts := ["new", "..", "out"] }

def soleGeneration : Generation := ⟨soleInput, soleArguments.outputDirectory, []⟩

section Sole
variable {octets : ByteArray} {records : List Record} {outcomes : List Outcome}

theorem storeRegistry_sole (octets : ByteArray) (definitions : List Definition) :
    ∃ after written, storeRegistry (soleFile octets) soleGeneration.outputDirectory
      soleGeneration.input.name definitions = (after, .ok written) := by
  let files := soleFile octets
  let grown := files.put ["new", "w"] .directory
  let grownAgain := grown.put ["out", "w"] .directory
  have first : files.makeDirectories { parts := ["new"] } = (grown, none) := by
    rw [FileTree.makeDirectories]
    rfl
  have second : files.makeDirectories { parts := ["new", ".."] } = (grown, none) := by
    have missing : files.makeDirectory { parts := ["new", ".."] } = .error .missing := rfl
    have there : grown.makeDirectory { parts := ["new", ".."] } = .error .alreadyThere := rfl
    rw [FileTree.makeDirectories_of_missing missing rfl first, FileTree.makeDirectories, there]
    · rfl
    · rw [there]
      intro same
      cases same
  have made : files.makeDirectories soleGeneration.outputDirectory = (grownAgain, none) := by
    change files.makeDirectories { parts := ["new", "..", "out"] } = _
    have missing : files.makeDirectory { parts := ["new", "..", "out"] } = .error .missing := rfl
    have added : grown.makeDirectory { parts := ["new", "..", "out"] } = .ok grownAgain := rfl
    rw [FileTree.makeDirectories_of_missing missing rfl second, FileTree.makeDirectories, added]
    rw [added]
    intro same
    cases same
  rw [storeRegistry, made]
  exact ⟨_, _, rfl⟩

theorem succeeds_sole (read : readRecords octets = .ok records)
    (expanded : expandRecords records [] = .ok outcomes) :
    ∃ after written,
      soleGeneration.Succeeds .unicode (soleFile octets) records outcomes after written := by
  have found : (soleFile octets).read soleGeneration.input = .ok octets := rfl
  have loaded : loadRegistry (soleFile octets) soleGeneration.input = .ok records := by
    rw [loadRegistry, found]
    dsimp only
    rw [read]
  obtain ⟨after, written, stored⟩ := storeRegistry_sole octets (allDefinitions outcomes)
  exact ⟨after, written, fault?_unicode _, loaded, rfl, expanded, stored, fault?_unicode _⟩

end Sole

end Command

end RecordProjection
