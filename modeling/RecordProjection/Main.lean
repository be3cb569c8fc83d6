import RecordProjection.Command.Run

/-!
The command line program. The directories and files on the paths of a command line are read into a
tree, the run is computed, and what it changed in the tree is carried out.
-/

namespace RecordProjection.Command

open Files

def inspect (place : Location) : IO (Option Node) := do
  let path := (← IO.currentDir) / (Path.ofLocation place).text
  if ← path.isDir then return some .directory
  if ← path.pathExists then return some (.file (← IO.FS.readBinFile path))
  return none

def survey (workingDirectory : Location) (paths : List Path) : IO FileTree := do
  let places := (paths.flatMap (Path.places workingDirectory)).eraseDups
  places.foldlM (fun tree place => do
    match ← inspect place with
    | some node => return tree.put place node
    | none => return tree) (.empty workingDirectory)

def carryOut (change : Location × Node) : IO Unit := do
  let path := (Path.ofLocation change.1).text
  match change.2 with
  | .directory => IO.FS.createDirAll path
  | .file content => IO.FS.writeBinFile path content

def carryOutAll (changes : List (Location × Node)) : IO Unit :=
  (changes.mergeSort fun first second => first.1.length ≤ second.1.length).forM carryOut

def Run.print (run : Run) : IO Unit := do
  IO.print run.output
  IO.eprint run.errors
  if let some failure := run.escaped then IO.eprintln failure.message

end RecordProjection.Command

open RecordProjection RecordProjection.Command in
def main (line : List String) : IO UInt32 := do
  match parseArguments .refuse line with
  | .error halt =>
    (halt.run {}).print
    return UInt32.ofNat halt.exitCode
  | .ok arguments =>
    let workingDirectory := (Files.Path.ofText (← IO.currentDir).toString).location []
    let before ← survey workingDirectory arguments.paths
    let run := arguments.run .unicode before
    carryOutAll (before.changes run.files)
    run.print
    return UInt32.ofNat run.exitCode
