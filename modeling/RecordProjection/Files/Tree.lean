import RecordProjection.Files.Fault

/-!
Trees of files and directories, and what can be done with a path in one: look it up, read it, make
it a directory, write it. A path leads on only through directories, also where it goes back up
afterwards. The root is a directory of every tree. Beside what is there, a policy of the system may
stand in the way of a path.
-/

namespace RecordProjection.Files

inductive Node
  | directory
  | file (content : ByteArray)

instance : DecidableEq Node
  | .directory, .directory => isTrue rfl
  | .directory, .file _ => isFalse nofun
  | .file _, .directory => isFalse nofun
  | .file first, .file second =>
    match ByteArray.instDecidableEq first second with
    | isTrue same => isTrue (congrArg Node.file same)
    | isFalse different => isFalse fun same => different (Node.file.inj same)

inductive Access
  | read
  | write
  | make
deriving DecidableEq, Repr

/-- What a system has against a path as it is written, against following a name from a directory,
and against what is to be done at a place. -/
structure Policy where
  path? : Path → Option Refusal := fun _ => none
  name? : Location → String → Option Refusal := fun _ _ => none
  access? : Access → Location → Option Refusal := fun _ _ => none

structure FileTree where
  /-- What is at each place; of two entries for one place the first counts. -/
  entries : List (Location × Node) := []
  /-- Where paths start that do not start at the root. -/
  workingDirectory : Location := []
  policy : Policy := {}

namespace FileTree

def node? (tree : FileTree) : Location → Option Node
  | [] => some .directory
  | place => tree.entries.lookup place

def content? (tree : FileTree) (place : Location) : Option ByteArray :=
  match tree.node? place with
  | some (.file content) => some content
  | _ => none

def put (tree : FileTree) (place : Location) (node : Node) : FileTree :=
  { tree with entries := (place, node) :: tree.entries.filter fun entry => entry.1 != place }

/-- Follows parts from a place. Everything that another part follows has to be a directory. -/
def descend (tree : FileTree) (place : Location) : List String → Except Obstacle Location
  | [] => .ok place
  | part :: parts =>
    match tree.node? place with
    | none => .error .missing
    | some (.file _) => .error .notDirectory
    | some .directory =>
      match tree.policy.name? place part with
      | some refusal => .error (.refused refusal)
      | none => tree.descend (step place part) parts

def locate (tree : FileTree) (path : Path) : Except Obstacle Location :=
  match tree.policy.path? path with
  | some refusal => .error (.refused refusal)
  | none => tree.descend (path.anchor.location tree.workingDirectory) path.parts

def lookup (tree : FileTree) (path : Path) : Except Obstacle Node :=
  match tree.locate path with
  | .error kind => .error kind
  | .ok place =>
    match tree.node? place with
    | none => .error .missing
    | some node => .ok node

def existence (tree : FileTree) (path : Path) : Except FileFault Bool :=
  if path.hasNull then .ok false
  else
    match tree.lookup path with
    | .ok _ => .ok true
    | .error (.refused refusal) => .error ⟨.refused refusal, path⟩
    | .error _ => .ok false

def octetsAt (tree : FileTree) (path : Path) (place : Location) : Except FileFault ByteArray :=
  match tree.node? place, tree.policy.access? .read place with
  | none, _ => .error ⟨.missing, path⟩
  | some _, some refusal => .error ⟨.refused refusal, path⟩
  | some .directory, none => .error ⟨.isDirectory, path⟩
  | some (.file content), none => .ok content

def read (tree : FileTree) (path : Path) : Except FileFault ByteArray :=
  match tree.locate path with
  | .error kind => .error ⟨kind, path⟩
  | .ok place => tree.octetsAt path place

def reach (tree : FileTree) : Location → Except Obstacle Unit
  | [] => .ok ()
  | part :: place =>
    match tree.reach place with
    | .error kind => .error kind
    | .ok () =>
      match tree.node? place with
      | none => .error .missing
      | some (.file _) => .error .notDirectory
      | some .directory =>
        match tree.policy.name? place part with
        | some refusal => .error (.refused refusal)
        | none => .ok ()

def readPlace (tree : FileTree) (place : Location) : Except FileFault ByteArray :=
  let path : Path := .ofLocation place
  match tree.policy.path? path with
  | some refusal => .error ⟨.refused refusal, path⟩
  | none =>
    match tree.reach place with
    | .error kind => .error ⟨kind, path⟩
    | .ok () => tree.octetsAt path place

/-- Whether the last part of a path gives a name to something new. A path without parts, or with two
dots at its end, names a directory that has its name from elsewhere. -/
def endsInName (path : Path) : Bool :=
  match path.parts.getLast? with
  | none => false
  | some part => part != parentPart

def makeDirectory (tree : FileTree) (path : Path) : Except Obstacle FileTree :=
  match tree.locate path with
  | .error kind => .error kind
  | .ok place =>
    if endsInName path then
      match tree.node? place with
      | some _ => .error .alreadyThere
      | none =>
        match tree.policy.access? .make place with
        | some refusal => .error (.refused refusal)
        | none => .ok (tree.put place .directory)
    else .error .alreadyThere

/-- What is left of a failure to add a directory: nothing, where a directory is there already. -/
def directoryFault? (tree : FileTree) (path : Path) (kind : Obstacle) : Option FileFault :=
  match tree.lookup path with
  | .ok .directory => none
  | .error (.refused refusal) => some ⟨.refused refusal, path⟩
  | _ => some ⟨kind, path⟩

/-- Adds a directory with all its parents. The directories that were added before a failure stay. -/
def makeDirectories (tree : FileTree) (path : Path) : FileTree × Option FileFault :=
  match tree.makeDirectory path with
  | .ok grown => (grown, none)
  | .error .missing =>
    match _parent : path.parent? with
    | none => (tree, some ⟨.missing, path⟩)
    | some parent =>
      match tree.makeDirectories parent with
      | (grown, some fault) => (grown, some fault)
      | (grown, none) =>
        match grown.makeDirectory path with
        | .ok grownAgain => (grownAgain, none)
        | .error kind => (grown, grown.directoryFault? path kind)
  | .error kind => (tree, tree.directoryFault? path kind)
termination_by path.parts.length
decreasing_by exact Path.parent?_shorter _parent

def write (tree : FileTree) (path : Path) (content : ByteArray) : Except FileFault FileTree :=
  match tree.locate path with
  | .error kind => .error ⟨kind, path⟩
  | .ok place =>
    if endsInName path then
      match tree.node? place with
      | some .directory => .error ⟨.isDirectory, path⟩
      | _ =>
        match tree.policy.access? .write place with
        | some refusal => .error ⟨.refused refusal, path⟩
        | none => .ok (tree.put place (.file content))
    else .error ⟨.isDirectory, path⟩

def around : Location → List Location
  | [] => []
  | part :: place => (part :: place) :: around place

def withDirectories (tree : FileTree) (place : Location) : FileTree :=
  (around place).foldl
    (fun tree place => if (tree.node? place).isSome then tree else tree.put place .directory) tree

def plant (tree : FileTree) (place : Location) (node : Node) : FileTree :=
  (tree.withDirectories place.tail).put place node

def empty (workingDirectory : Location) : FileTree :=
  withDirectories { workingDirectory } workingDirectory

def changes (before after : FileTree) : List (Location × Node) :=
  after.entries.filter fun (place, node) => before.node? place != some node

def changedFiles (before after : FileTree) : List (Location × ByteArray) :=
  (before.changes after).filterMap fun (place, node) =>
    match node with
    | .directory => none
    | .file content => some (place, content)

theorem node?_put_self (tree : FileTree) {place : Location} (node : Node) (inner : place ≠ []) :
    (tree.put place node).node? place = some node := by
  cases place with
  | nil => exact absurd rfl inner
  | cons part place => simp [node?, put]

theorem lookup_filter_ne {place other : Location} (different : other ≠ place)
    (entries : List (Location × Node)) :
    (entries.filter fun entry => entry.1 != place).lookup other = entries.lookup other := by
  induction entries with
  | nil => rfl
  | cons entry entries ih =>
    obtain ⟨first, node⟩ := entry
    by_cases gone : first = place
    · have unequal : (other == first) = false := beq_eq_false_iff_ne.mpr (gone ▸ different)
      simp only [List.lookup_cons, unequal]
      simpa [gone] using ih
    · have kept : (first != place) = true := bne_iff_ne.mpr gone
      simp only [List.filter_cons, kept, ↓reduceIte, List.lookup_cons]
      split
      · rfl
      · exact ih

theorem node?_put_of_ne (tree : FileTree) {place other : Location} (node : Node)
    (different : other ≠ place) : (tree.put place node).node? other = tree.node? other := by
  cases other with
  | nil => rfl
  | cons part rest =>
    have unequal : (part :: rest == place) = false := beq_eq_false_iff_ne.mpr different
    simp only [node?, put, List.lookup_cons, unequal]
    exact lookup_filter_ne different tree.entries

end FileTree

end RecordProjection.Files
