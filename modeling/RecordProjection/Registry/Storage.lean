import RecordProjection.Files.Tree
import RecordProjection.Registry.Document

/-!
Registries as files: reading one, and writing one into a directory that is made where it is missing.
-/

namespace RecordProjection

open Files

inductive LoadFault
  | file (fault : FileFault)
  | content (fault : ReadFault)
deriving DecidableEq, Repr

def loadRegistry (tree : FileTree) (path : Path) : Except LoadFault (List Record) :=
  match tree.read path with
  | .error fault => .error (.file fault)
  | .ok octets =>
    match readRecords octets with
    | .error fault => .error (.content fault)
    | .ok records => .ok records

structure WrittenFile where
  filename : String
  path : Path
  lineCount : Nat
  byteCount : Nat
deriving DecidableEq, Repr

/-- Lines are counted by their line feeds. -/
def lineCount (text : String) : Nat := text.toList.count '\n'

/-- Writes a registry into a directory and reads it back from the root. What was made or written on
the way stays if a later step fails. -/
def storeRegistry (tree : FileTree) (directory : Path) (filename : String)
    (definitions : List Definition) : FileTree × Except FileFault WrittenFile :=
  match tree.makeDirectories directory with
  | (grown, some fault) => (grown, .error fault)
  | (grown, none) =>
    let path := directory.append (.ofText filename)
    let document := registryDocument definitions
    match grown.write path document.toUTF8 with
    | .error fault => (grown, .error fault)
    | .ok written =>
      let place := path.location written.workingDirectory
      match written.readPlace place with
      | .error fault => (written, .error fault)
      | .ok octets =>
        (written, .ok {
          filename
          path := .ofLocation place
          lineCount := lineCount document
          byteCount := octets.size })

end RecordProjection
