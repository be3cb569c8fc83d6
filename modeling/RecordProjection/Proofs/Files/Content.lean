import RecordProjection.Files.Tree

/-! What is in the files of a tree. A path that leads somewhere leads to the place that it names.
Adding directories leaves every file as it is, however far it gets, and writing a file leaves every
other one; the file itself is read by the path by which it was written. -/

namespace RecordProjection.Files

namespace FileTree
variable {tree after grown : FileTree} {path : Path} {place : Location}

theorem descend_eq_ok {parts : List String} {target : Location}
    (found : tree.descend place parts = .ok target) : target = parts.foldl step place := by
  induction parts generalizing place with
  | nil =>
    cases found
    rfl
  | cons part parts ih =>
    rw [descend] at found
    split at found
    · cases found
    · cases found
    · split at found
      · cases found
      · exact ih found

theorem location_of_locate (found : tree.locate path = .ok place) :
    place = path.location tree.workingDirectory := by
  unfold locate at found
  split at found
  · cases found
  · exact descend_eq_ok found

theorem octetsAt_eq_ok_iff {octets : ByteArray} :
    tree.octetsAt path place = .ok octets ↔
      tree.content? place = some octets ∧ tree.policy.access? .read place = none := by
  unfold octetsAt content?
  split
  · rename_i missing
    simp [missing]
  · rename_i refusal _ refused
    simp [refused]
  · rename_i directory free
    simp [directory]
  · rename_i content found free
    simp [found, free]

theorem content?_of_read {octets : ByteArray} (read : tree.read path = .ok octets) :
    tree.content? (path.location tree.workingDirectory) = some octets := by
  unfold FileTree.read at read
  split at read
  · cases read
  · rename_i located
    rw [← location_of_locate located]
    exact (octetsAt_eq_ok_iff.1 read).1

theorem readPlace_eq_ok {octets : ByteArray} (read : tree.readPlace place = .ok octets) :
    tree.content? place = some octets ∧ tree.policy.access? .read place = none := by
  unfold readPlace at read
  dsimp only at read
  split at read
  · cases read
  · split at read
    · cases read
    · exact octetsAt_eq_ok_iff.1 read

structure Keeps (tree after : FileTree) : Prop where
  contents : ∀ place, after.content? place = tree.content? place
  workingDirectory : after.workingDirectory = tree.workingDirectory

theorem Keeps.refl (tree : FileTree) : Keeps tree tree := ⟨fun _ => rfl, rfl⟩

theorem Keeps.trans (first : Keeps tree grown) (second : Keeps grown after) : Keeps tree after where
  contents place := (second.contents place).trans (first.contents place)
  workingDirectory := second.workingDirectory.trans first.workingDirectory

structure Rewrites (tree after : FileTree) (place : Location) (content : ByteArray) : Prop where
  there : after.content? place = some content
  elsewhere : ∀ other, other ≠ place → after.content? other = tree.content? other

theorem content?_put_of_ne {other : Location} (node : Node) (different : other ≠ place) :
    (tree.put place node).content? other = tree.content? other := by
  rw [content?, content?, node?_put_of_ne tree node different]

theorem keeps_put_directory (missing : tree.node? place = none) :
    Keeps tree (tree.put place .directory) where
  contents other := by
    by_cases same : other = place
    · have inner : place ≠ [] := by
        rintro rfl
        cases missing
      rw [same, content?, content?, node?_put_self tree .directory inner, missing]
    · exact content?_put_of_ne .directory same
  workingDirectory := rfl

theorem keeps_of_makeDirectory (made : tree.makeDirectory path = .ok grown) :
    Keeps tree grown := by
  unfold makeDirectory at made
  split at made
  · cases made
  · split at made
    · split at made
      · cases made
      · rename_i missing
        split at made
        · cases made
        · cases made
          exact keeps_put_directory missing
    · cases made

/-- Directories are added without a change to any file, also where not all of them are. -/
theorem keeps_makeDirectories (tree : FileTree) (path : Path) :
    Keeps tree (tree.makeDirectories path).1 := by
  fun_induction makeDirectories tree path with
  | case1 path grown made => exact keeps_of_makeDirectory made
  | case2 => exact .refl tree
  | case3 path missing parent found grown fault failed ih =>
    rw [failed] at ih
    exact ih
  | case4 path missing parent found grown made again added ih =>
    rw [made] at ih
    exact ih.trans (keeps_of_makeDirectory added)
  | case5 path missing parent found grown made kind failed ih =>
    rw [made] at ih
    exact ih
  | case6 => exact .refl tree

theorem rewrites_of_write {content : ByteArray} (written : tree.write path content = .ok after) :
    tree.Rewrites after (path.location tree.workingDirectory) content := by
  unfold write at written
  split at written
  · cases written
  · rename_i place located
    rw [← location_of_locate located]
    split at written
    · split at written
      · cases written
      · rename_i free
        split at written
        · cases written
        · cases written
          -- The root is a directory, so it is not the root that is written.
          have inner : place ≠ [] := by
            rintro rfl
            exact free rfl
          refine ⟨?_, fun other different => content?_put_of_ne _ different⟩
          rw [content?, node?_put_self tree _ inner]
    · cases written

theorem descend_put {parts : List String} {start target : Location} (node : Node)
    (found : tree.descend start parts = .ok target)
    (other : tree.node? place ≠ some .directory) :
    (tree.put place node).descend start parts = .ok target := by
  induction parts generalizing start with
  | nil => exact found
  | cons part parts ih =>
    rw [descend] at found
    split at found
    · cases found
    · cases found
    · rename_i through
      split at found
      · cases found
      · rename_i free
        have different : start ≠ place := by
          rintro rfl
          exact other through
        have policy : (tree.put place node).policy.name? start part = none := free
        rw [descend, node?_put_of_ne tree node different, through]
        dsimp only
        rw [policy]
        exact ih found

theorem locate_of_write {content : ByteArray} (written : tree.write path content = .ok after) :
    after.locate path = .ok (path.location tree.workingDirectory) := by
  unfold write at written
  split at written
  · cases written
  · rename_i place located
    rw [← location_of_locate located]
    split at written
    · split at written
      · cases written
      · rename_i free
        split at written
        · cases written
        · cases written
          unfold locate at located ⊢
          split at located
          · cases located
          · rename_i allowed
            have policy : (tree.put place (.file content)).policy.path? path = none := allowed
            rw [policy]
            exact descend_put _ located free
    · cases written

theorem workingDirectory_of_write {content : ByteArray}
    (written : tree.write path content = .ok after) :
    after.workingDirectory = tree.workingDirectory := by
  unfold write at written
  split at written
  · cases written
  · split at written
    · split at written
      · cases written
      · split at written
        · cases written
        · cases written
          rfl
    · cases written

theorem read_of_write {content octets : ByteArray} (written : tree.write path content = .ok after)
    (legible : after.readPlace (path.location after.workingDirectory) = .ok octets) :
    octets = content ∧ after.read path = .ok content := by
  rw [workingDirectory_of_write written] at legible
  obtain ⟨found, free⟩ := readPlace_eq_ok legible
  have there := (rewrites_of_write written).there
  refine ⟨Option.some.inj (found.symm.trans there), ?_⟩
  rw [FileTree.read, locate_of_write written]
  exact octetsAt_eq_ok_iff.2 ⟨there, free⟩

end FileTree

end RecordProjection.Files
