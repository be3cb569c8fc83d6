import RecordProjection.Proofs.Files.Content

/-! Trees in which a path can only fail because of what is there: nothing, something of the wrong
kind, or something already. They stay so whatever is made or written, and what is written in one can
be read back from the root. -/

namespace RecordProjection.Files

namespace FileTree

/-- Whether everything stands in a directory, and the system has nothing against any path. -/
structure Ordinary (tree : FileTree) : Prop where
  rooted : ∀ part place node, tree.node? (part :: place) = some node →
    tree.node? place = some .directory
  paths : ∀ path, tree.policy.path? path = none
  names : ∀ place part, tree.policy.name? place part = none
  access : ∀ kind place, tree.policy.access? kind place = none

variable {tree after grown : FileTree} {path : Path} {place start : Location} {part : String}

theorem Ordinary.put (ordinary : tree.Ordinary) (parent : tree.node? place = some .directory)
    (other : tree.node? (part :: place) ≠ some .directory) (node : Node) :
    (tree.put (part :: place) node).Ordinary where
  rooted inner around found present := by
    have apart : place ≠ part :: place := by simp
    by_cases same : inner :: around = part :: place
    · obtain ⟨-, rfl⟩ := List.cons.inj same
      rw [node?_put_of_ne tree node apart]
      exact parent
    · rw [node?_put_of_ne tree node same] at present
      have directory := ordinary.rooted inner around found present
      have different : around ≠ part :: place := by
        rintro rfl
        exact other directory
      rw [node?_put_of_ne tree node different]
      exact directory
  paths := ordinary.paths
  names := ordinary.names
  access := ordinary.access

/-- A path that ends in a name leads into a directory. -/
theorem parent_of_descend {parts : List String} (found : tree.descend start parts = .ok place)
    (last : parts.getLast? = some part) (name : part ≠ parentPart) :
    ∃ parent, place = part :: parent ∧ tree.node? parent = some .directory := by
  induction parts generalizing start with
  | nil => cases last
  | cons first rest ih =>
    rw [descend] at found
    split at found
    · cases found
    · cases found
    · rename_i directory
      split at found
      · cases found
      · cases rest with
        | nil =>
          cases last
          cases found
          exact ⟨start, if_neg name, directory⟩
        | cons second rest => exact ih found (by rwa [List.getLast?_cons_cons] at last)

theorem parent_of_locate (located : tree.locate path = .ok place) (named : endsInName path = true) :
    ∃ part parent, place = part :: parent ∧ tree.node? parent = some .directory := by
  unfold locate at located
  split at located
  · cases located
  · unfold endsInName at named
    split at named
    · cases named
    · rename_i part last
      exact ⟨part, parent_of_descend located last (bne_iff_ne.1 named)⟩

theorem ordinary_of_makeDirectory (ordinary : tree.Ordinary)
    (made : tree.makeDirectory path = .ok grown) : grown.Ordinary := by
  unfold makeDirectory at made
  split at made
  · cases made
  · rename_i located
    split at made
    · rename_i named
      obtain ⟨_, _, rfl, parent⟩ := parent_of_locate located named
      split at made
      · cases made
      · rename_i missing
        split at made
        · cases made
        · cases made
          exact ordinary.put parent (by rw [missing]; exact nofun) .directory
    · cases made

theorem makeDirectories_of_missing {parent : Path}
    (missing : tree.makeDirectory path = .error .missing) (above : path.parent? = some parent)
    (made : tree.makeDirectories parent = (grown, none))
    (reached : grown.makeDirectory path ≠ .error .missing) :
    tree.makeDirectories path = grown.makeDirectories path := by
  rw [makeDirectories, missing]
  dsimp only
  split
  · rename_i unparented
    rw [above] at unparented
    cases unparented
  · rename_i other found
    rw [above] at found
    cases found
    rw [made, makeDirectories]
    dsimp only
    cases outcome : grown.makeDirectory path with
    | ok after => rfl
    | error kind =>
      cases kind with
      | missing => exact absurd outcome reached
      | _ => rfl

theorem ordinary_makeDirectories (ordinary : tree.Ordinary) (path : Path) :
    (tree.makeDirectories path).1.Ordinary := by
  fun_induction makeDirectories tree path with
  | case1 path grown made => exact ordinary_of_makeDirectory ordinary made
  | case2 => exact ordinary
  | case3 path missing parent found grown fault failed ih =>
    rw [failed] at ih
    exact ih
  | case4 path missing parent found grown made again added ih =>
    rw [made] at ih
    exact ordinary_of_makeDirectory ih added
  | case5 path missing parent found grown made kind failed ih =>
    rw [made] at ih
    exact ih
  | case6 => exact ordinary

theorem ordinary_of_write {content : ByteArray} (ordinary : tree.Ordinary)
    (written : tree.write path content = .ok after) : after.Ordinary := by
  unfold write at written
  split at written
  · cases written
  · rename_i located
    split at written
    · rename_i named
      obtain ⟨_, _, rfl, parent⟩ := parent_of_locate located named
      split at written
      · cases written
      · rename_i other
        split at written
        · cases written
        · cases written
          exact ordinary.put parent other (.file content)
    · cases written

theorem Ordinary.reach (ordinary : tree.Ordinary) {node : Node}
    (present : tree.node? place = some node) : tree.reach place = .ok () := by
  induction place generalizing node with
  | nil => rfl
  | cons part place ih =>
    have directory := ordinary.rooted part place node present
    rw [FileTree.reach, ih directory, directory]
    dsimp only
    rw [ordinary.names]

theorem Ordinary.descend_ne_refused (ordinary : tree.Ordinary) (start : Location)
    (parts : List String) (refusal : Refusal) :
    tree.descend start parts ≠ .error (.refused refusal) := by
  intro refused
  induction parts generalizing start with
  | nil => cases refused
  | cons part parts ih =>
    rw [descend] at refused
    split at refused
    · cases refused
    · cases refused
    · rw [ordinary.names] at refused
      exact ih (step start part) refused

theorem Ordinary.lookup_ne_refused (ordinary : tree.Ordinary) (path : Path) (refusal : Refusal) :
    tree.lookup path ≠ .error (.refused refusal) := by
  intro refused
  unfold lookup locate at refused
  rw [ordinary.paths] at refused
  dsimp only at refused
  split at refused
  · rename_i kind failed
    cases refused
    exact ordinary.descend_ne_refused _ _ refusal failed
  · split at refused <;> cases refused

theorem Ordinary.existence_ne_error (ordinary : tree.Ordinary) (path : Path) (fault : FileFault) :
    tree.existence path ≠ .error fault := by
  intro failed
  unfold existence at failed
  split at failed
  · cases failed
  · split at failed
    · cases failed
    · rename_i refusal refused
      exact ordinary.lookup_ne_refused path refusal refused
    · cases failed

theorem readPlace_of_write {content : ByteArray} (ordinary : tree.Ordinary)
    (written : tree.write path content = .ok after) :
    after.readPlace (path.location after.workingDirectory) = .ok content := by
  have kept := ordinary_of_write ordinary written
  have there := (rewrites_of_write written).there
  rw [← workingDirectory_of_write written] at there
  have reached : after.reach (path.location after.workingDirectory) = .ok () := by
    unfold content? at there
    split at there
    · rename_i present
      exact kept.reach present
    · cases there
  rw [readPlace, kept.paths, reached]
  exact octetsAt_eq_ok_iff.2 ⟨there, kept.access _ _⟩

end FileTree

end RecordProjection.Files
