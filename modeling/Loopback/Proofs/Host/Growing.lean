import Loopback.Proofs.Host.Written

/-!
# What a write leaves

Making directories adds directories and touches nothing else, however far it gets. A file is opened only once all
directories above it are there; from then on it is the only one that changes, and if the storage gives out, it is left
with the octets that were taken.
-/

namespace Loopback

namespace FileTree

variable {tree tree' tree'' : FileTree} {directory place : FilePlace} {path : Path} {number : Nat}
  {storage : Storage} {content : List UInt8}

/-- Whatever stood in a tree still stands in another, which may have more directories, and all files hold what they
held. -/
structure Grows (tree tree' : FileTree) : Prop where
  node (place : FilePlace) : tree'.node? place = tree.node? place ∨
    (tree.node? place = none ∧ tree'.node? place = some .directory)
  content (number : Nat) : tree'.content? number = tree.content? number

namespace Grows

/-- A tree has grown by nothing. -/
theorem refl (tree : FileTree) : tree.Grows tree := ⟨fun _ => .inl rfl, fun _ => rfl⟩

/-- What has grown twice has grown. -/
theorem trans (h : tree.Grows tree') (h' : tree'.Grows tree'') : tree.Grows tree'' := by
  constructor
  · intro place
    obtain hkept | ⟨hnone, hnew⟩ := h'.node place
    · rw [hkept]
      exact h.node place
    · obtain hkept | ⟨-, hsome⟩ := h.node place
      · exact .inr ⟨hkept ▸ hnone, hnew⟩
      · cases hnone.symm.trans hsome
  · intro number
    rw [h'.content, h.content]

/-- What is new in a tree that has grown is no file. -/
theorem node?_file (h : tree.Grows tree') :
    tree'.node? place = some (.file number) ↔ tree.node? place = some (.file number) := by
  obtain hkept | ⟨hnone, hnew⟩ := h.node place
  · rw [hkept]
  · simp [hnone, hnew]

end Grows

/-- A directory where nothing was makes a tree grow. -/
theorem grows_set_directory (h : tree.node? place = none) : tree.Grows (tree.set place .directory) := by
  have hroot : place ≠ [] := by
    rintro rfl
    cases h
  constructor
  · intro other
    by_cases hother : other = place
    · subst hother
      exact .inr ⟨h, node?_set_self hroot⟩
    · exact .inl (node?_set_of_ne hother)
  · exact fun _ => rfl

/-- To make a directory makes a tree grow. -/
theorem grows_makeDirectory (h : tree.makeDirectory storage directory path = .ok tree') : tree.Grows tree' := by
  unfold makeDirectory at h
  split at h
  · cases h
  next =>
    split at h
    · cases h
    next hnone =>
      split at h
      · cases h
      · cases h
        exact grows_set_directory hnone

/-- To look for the lowest directory that is there or can be made lets a tree at most grow. -/
theorem grows_makeLowest (tree : FileTree) (storage : Storage) (directory : FilePlace) (paths : List Path) :
    tree.Grows (tree.makeLowest storage directory paths).2 := by
  induction paths with
  | nil => exact .refl tree
  | cons path paths ih =>
    rw [makeLowest]
    split
    next hmade => exact grows_makeDirectory hmade
    next =>
      split_ifs
      · exact ih
      · exact .refl tree
      · exact .refl tree

/-- To make directories in turn lets a tree at most grow, also where one cannot be made. -/
theorem grows_makeEach (tree : FileTree) (storage : Storage) (directory : FilePlace) (paths : List Path) :
    tree.Grows (tree.makeEach storage directory paths).2 := by
  induction paths generalizing tree with
  | nil => exact .refl tree
  | cons path paths ih =>
    rw [makeEach]
    split
    next hmade => exact (grows_makeDirectory hmade).trans (ih _)
    next =>
      split_ifs
      · exact ih tree
      · exact .refl tree

/-- To make a directory and all that are missing above it lets a tree at most grow. -/
theorem grows_makeDirectories (tree : FileTree) (storage : Storage) (directory : FilePlace) (path : Path) :
    tree.Grows (tree.makeDirectories storage directory path).2 := by
  have hlowest := grows_makeLowest tree storage directory path.withAncestors
  unfold makeDirectories
  split
  next heq =>
    rw [heq] at hlowest
    exact hlowest
  next heq =>
    rw [heq] at hlowest
    exact hlowest.trans (grows_makeEach _ storage directory _)

/-- A file goes by a number that is smaller than one that is not in use. -/
theorem lt_unused (h : tree.node? place = some (.file number)) : number < tree.unused := by
  have hmem : (place, FileNode.file number) ∈ tree.nodes := by
    unfold node? at h
    split_ifs at h
    · cases h
    · obtain ⟨before, after, hnodes, -⟩ := List.lookup_eq_some_iff.1 h
      simp [hnodes]
  have hbound : ∀ counts : List Nat, ∀ count ∈ counts, count ≤ counts.foldr max 0 := by
    intro counts
    induction counts with
    | nil => simp
    | cons first counts ih => grind
  exact hbound _ _ (List.mem_map.2 ⟨_, hmem, rfl⟩)

/-- What a tree becomes where the file of a number at a place is written and directories are made: the file stood there
before, or nothing did and it is a new one; all else that stood in the tree stands there still, the other files hold
what they held, and what else is new is a directory. -/
structure SparesAllBut (tree tree' : FileTree) (place : FilePlace) (number : Nat) : Prop where
  own : tree.node? place = some (.file number) ∨
    (tree.node? place = none ∧ ∀ other, tree.node? other ≠ some (.file number))
  file : tree'.node? place = some (.file number)
  node (other : FilePlace) : other ≠ place → tree'.node? other = tree.node? other ∨
    (tree.node? other = none ∧ tree'.node? other = some .directory)
  content (other : Nat) : other ≠ number → tree'.content? other = tree.content? other

/-- To fill the file that stands at a place spares all others. -/
theorem sparesAllBut_fill (h : tree.node? place = some (.file number)) (content : List UInt8) :
    tree.SparesAllBut (tree.fill number content) place number :=
  ⟨.inl h, h, fun _ _ => .inl rfl, fun _ => content?_fill_of_ne⟩

/-- To put a new file where nothing was spares all others. -/
theorem sparesAllBut_set (h : tree.node? place = none) :
    tree.SparesAllBut (tree.set place (.file tree.unused)) place tree.unused := by
  have hroot : place ≠ [] := by
    rintro rfl
    cases h
  have hnew (other : FilePlace) : tree.node? other ≠ some (.file tree.unused) := fun hused =>
    absurd (lt_unused hused) (Nat.lt_irrefl _)
  exact ⟨.inr ⟨h, hnew⟩, node?_set_self hroot, fun _ hother => .inl (node?_set_of_ne hother), fun _ _ => rfl⟩

namespace SparesAllBut

/-- What is then filled with other octets is spared likewise. -/
theorem fill (h : tree.SparesAllBut tree' place number) (content : List UInt8) :
    tree.SparesAllBut (tree'.fill number content) place number where
  own := h.own
  file := h.file
  node := h.node
  content other hother := (content?_fill_of_ne hother).trans (h.content other hother)

/-- Directories that were made before are as good as made with the file. -/
theorem of_grows (hgrows : tree.Grows tree') (h : tree'.SparesAllBut tree'' place number) :
    tree.SparesAllBut tree'' place number where
  own := by
    obtain hfile | ⟨hnone, hnew⟩ := h.own
    · exact .inl (hgrows.node?_file.1 hfile)
    · refine .inr ⟨?_, fun other hfile => hnew other (hgrows.node?_file.2 hfile)⟩
      obtain hkept | ⟨hbefore, -⟩ := hgrows.node place
      · rw [← hkept, hnone]
      · exact hbefore
  file := h.file
  node other hother := by
    obtain hkept | ⟨hnone, hnew⟩ := h.node other hother
    · rw [hkept]
      exact hgrows.node other
    · obtain hkept | ⟨-, hsome⟩ := hgrows.node other
      · exact .inr ⟨hkept ▸ hnone, hnew⟩
      · cases hnone.symm.trans hsome
  content other hother := (h.content other hother).trans (hgrows.content other)

end SparesAllBut

/-- The file that is opened to be written is the one at the place that its path leads to, and all others are spared,
whatever is then written to it. -/
theorem sparesAllBut_of_openEmptied (h : tree.openEmptied storage directory path = .ok (number, tree'))
    (content : List UInt8) :
    ∃ place, (tree'.fill number content).resolve true directory path = .ok (place, false) ∧
      tree.SparesAllBut (tree'.fill number content) place number := by
  obtain ⟨place, hplace, -, ⟨hfile, rfl⟩ | ⟨hnone, rfl, rfl⟩⟩ := exists_place_of_openEmptied h
  · exact ⟨place, hplace content, (sparesAllBut_fill hfile []).fill content⟩
  · exact ⟨place, hplace content, ((sparesAllBut_set hnone).fill []).fill content⟩

end FileTree

/-- Where writing fails, there was room for fewer octets than were to be written. -/
theorem Storage.lt_of_fault? {storage : Storage} {count room : Nat} {code : Int}
    (h : storage.fault? count = some (room, code)) : room < count := by
  simpa using (Option.filter_eq_some_iff.1 h).2

namespace Host

variable {h : Host} {path : Path} {content : List UInt8}

/-- To make the directories above a path lets the files at most grow. -/
theorem grows_makeParents (h : Host) (path : Path) : h.files.Grows (h.makeParents path).2 := by
  unfold makeParents
  split
  · exact .refl h.files
  · exact .refl h.files
  · exact FileTree.grows_makeDirectories h.files _ _ _

/-- What writing to a path leaves of the files of a host: at most more directories, if the file cannot be opened; or
else the file at the place that the path leads to holds what the storage has taken, and all others are spared. -/
inductive Wrote (h : Host) (path : Path) (content : List UInt8) : Except IoFailure Unit → Host → Prop where
  | unopened {failure : IoFailure} {files : FileTree} (hgrows : h.files.Grows files) :
      Wrote h path content (.error failure) { h with files }
  | broken {failure : IoFailure} {files : FileTree} {place : FilePlace} {number count : Nat}
      (hcount : count < content.length) (hplace : files.resolve true h.workingDirectory path = .ok (place, false))
      (htaken : files.content? number = some (content.take count))
      (hspared : h.files.SparesAllBut files place number) : Wrote h path content (.error failure) { h with files }
  | whole {files : FileTree} {place : FilePlace} {number : Nat}
      (hplace : files.resolve true h.workingDirectory path = .ok (place, false))
      (hheld : files.content? number = some content) (hspared : h.files.SparesAllBut files place number) :
      Wrote h path content (.ok ()) { h with files }

/-- Writing to a path leaves what it is said to leave. -/
theorem wrote_writeFile (h : Host) (path : Path) (content : List UInt8) :
    Wrote h path content (h.writeFile path content).1 (h.writeFile path content).2 := by
  have hgrows := grows_makeParents h path
  unfold writeFile
  split
  next heq =>
    rw [heq] at hgrows
    exact .unopened hgrows
  next files heq =>
    rw [heq] at hgrows
    cases hopened : files.openEmptied h.storage h.workingDirectory path with
    | error =>
      simp only [FileTree.write, hopened]
      exact .unopened hgrows
    | ok opened =>
      obtain ⟨number, opened⟩ := opened
      cases hfault : h.storage.fault? content.length with
      | none =>
        obtain ⟨place, hplace, hspared⟩ := FileTree.sparesAllBut_of_openEmptied hopened content
        simp only [FileTree.write, hopened, hfault]
        exact .whole hplace FileTree.content?_fill_self (hspared.of_grows hgrows)
      | some fault =>
        obtain ⟨count, code⟩ := fault
        obtain ⟨place, hplace, hspared⟩ := FileTree.sparesAllBut_of_openEmptied hopened (content.take count)
        simp only [FileTree.write, hopened, hfault]
        exact .broken (Storage.lt_of_fault? hfault) hplace FileTree.content?_fill_self (hspared.of_grows hgrows)

end Host

end Loopback
