import Loopback.Host.Basic
import Loopback.Proofs.Text.Utf8

/-!
# Reading what was written

A file that is written at a path is what is read at that path afterwards. What is put in a file, or in a place where
nothing was, does not change the ways through the tree: these lead through directories and links only. Whether a path
can be written depends on what is written no more than by its length.
-/

namespace Loopback

section entries

variable {α β : Type} [BEq α] [LawfulBEq α] {key other : α}

/-- Among the entries with some keys, what is found under one of these is what is found among all. -/
theorem lookup_filter (entries : List (α × β)) (keeps : α → Bool) (key : α) :
    (entries.filter fun entry => keeps entry.1).lookup key = if keeps key then entries.lookup key else none := by
  induction entries with
  | nil => simp
  | cons entry rest ih =>
    obtain ⟨other, value⟩ := entry
    by_cases hkey : key = other
    · subst hkey
      by_cases hkeeps : keeps key
      · simp [hkeeps]
      · simp [hkeeps, ih]
    · have hne : (key == other) = false := beq_false_of_ne hkey
      by_cases hkeeps : keeps other
      · simp [hkeeps, List.lookup_cons, hne, ih]
      · simp [hkeeps, List.lookup_cons, hne, ih]

/-- To put an entry in the place of another leaves what is found under the other keys as it is. -/
theorem lookup_replaced [DecidableEq α] {value : β} {entries : List (α × β)} (h : other ≠ key) :
    ((key, value) :: entries.filter (·.1 ≠ key)).lookup other = entries.lookup other := by
  have hother : (other == key) = false := by simpa using h
  rw [List.lookup_cons, hother, lookup_filter entries (fun key' => decide (key' ≠ key))]
  simp [h]

end entries

namespace FileTree

variable {tree tree' : FileTree} {place other directory : FilePlace} {node : FileNode} {path : Path}
  {content : List UInt8} {number : Nat} {leadsOn : Bool} {storage : Storage}

/-- What is put at a place below the root stands there. -/
theorem node?_set_self (h : place ≠ []) : (tree.set place node).node? place = some node := by
  simp [node?, set, h]

/-- What is put at a place leaves the other places as they are. -/
theorem node?_set_of_ne (h : other ≠ place) : (tree.set place node).node? other = tree.node? other := by
  simp only [node?, set, lookup_replaced h]

/-- The file of a number holds what it was filled with. -/
theorem content?_fill_self : (tree.fill number content).content? number = some content := by
  simp [content?, fill]

/-- To fill one file leaves what the others hold as it is. -/
theorem content?_fill_of_ne {other : Nat} (h : other ≠ number) :
    (tree.fill number content).content? other = tree.content? other :=
  lookup_replaced h

/-- Whatever way there is through a tree is one through another: its directories and links are there, and nothing else
is a link there. -/
structure KeepsWays (tree tree' : FileTree) : Prop where
  directory {place : FilePlace} : tree.node? place = some .directory → tree'.node? place = some .directory
  link {place : FilePlace} {target : Path} :
    tree'.node? place = some (.link target) ↔ tree.node? place = some (.link target)

namespace KeepsWays

/-- What a file holds is on no way. -/
theorem fill (tree : FileTree) (number : Nat) (content : List UInt8) : tree.KeepsWays (tree.fill number content) :=
  ⟨id, .rfl⟩

/-- Two changes that keep the ways keep them together. -/
theorem trans {tree'' : FileTree} (h : tree.KeepsWays tree') (h' : tree'.KeepsWays tree'') : tree.KeepsWays tree'' :=
  ⟨fun hplace => h'.directory (h.directory hplace), h'.link.trans h.link⟩

/-- A file where nothing was is on no way. -/
theorem set_file (hplace : tree.node? place = none) (number : Nat) :
    tree.KeepsWays (tree.set place (.file number)) := by
  have hroot : place ≠ [] := by
    rintro rfl
    cases hplace
  have hkept (other : FilePlace) : other ≠ place ∨
      (tree.node? other = none ∧ (tree.set place (.file number)).node? other = some (.file number)) := by
    by_cases hother : other = place
    · subst hother
      exact .inr ⟨hplace, node?_set_self hroot⟩
    · exact .inl hother
  constructor
  · intro other hdirectory
    obtain hother | ⟨hnone, -⟩ := hkept other
    · rwa [node?_set_of_ne hother]
    · cases hnone.symm.trans hdirectory
  · intro other target
    obtain hother | ⟨hnone, hfile⟩ := hkept other
    · rw [node?_set_of_ne hother]
    · simp [hnone, hfile]

/-- A walk goes the same way in a tree that keeps the ways. -/
theorem walk (h : tree.KeepsWays tree') {names : List (List UInt8)} {way : Way}
    (hway : tree.walk leadsOn place names = .ok way) : tree'.walk leadsOn place names = .ok way := by
  induction names generalizing place with
  | nil => exact hway
  | cons name names ih =>
    rw [FileTree.walk] at hway ⊢
    split at hway
    · cases hway
    next hdirectory =>
      rw [h.directory hdirectory]
      dsimp only at hway ⊢
      by_cases hlong : nameLimit < name.length
      · rw [if_pos hlong] at hway
        cases hway
      rw [if_neg hlong] at hway ⊢
      by_cases habove : name = Path.above
      · rw [if_pos habove] at hway ⊢
        exact ih hway
      rw [if_neg habove] at hway ⊢
      split at hway
      next hlink =>
        rw [h.link.2 hlink]
        exact hway
      next hnone =>
        split
        next hlink => exact absurd (h.link.1 hlink) (hnone _)
        next => exact ih hway
    · cases hway

/-- Names lead to the same place in a tree that keeps the ways. -/
theorem follow (h : tree.KeepsWays tree') {links : Nat} {names : List (List UInt8)} {found : FilePlace × Bool}
    (hfound : tree.follow leadsOn links place names = .ok found) :
    tree'.follow leadsOn links place names = .ok found := by
  induction links generalizing place names found with
  | zero =>
    rw [FileTree.follow] at hfound ⊢
    split at hfound
    · cases hfound
    next hway =>
      rw [h.walk hway]
      exact hfound
    · cases hfound
  | succ links ih =>
    rw [FileTree.follow] at hfound ⊢
    split at hfound
    · cases hfound
    next hway =>
      rw [h.walk hway]
      exact hfound
    next hway =>
      rw [h.walk hway]
      dsimp only at hfound ⊢
      cases hrest : tree.follow leadsOn links _ _ with
      | error =>
        rw [hrest] at hfound
        cases hfound
      | ok =>
        rw [ih hrest]
        rw [hrest] at hfound
        exact hfound

/-- A path leads to the same place in a tree that keeps the ways. -/
theorem resolve (h : tree.KeepsWays tree') {found : FilePlace × Bool}
    (hfound : tree.resolve leadsOn directory path = .ok found) :
    tree'.resolve leadsOn directory path = .ok found := by
  unfold FileTree.resolve at hfound ⊢
  generalize (if path.isAbsolute then [] else directory) = start at hfound ⊢
  split_ifs at hfound ⊢
  split at hfound
  next hplace =>
    rw [h.follow hplace]
    exact hfound
  next => cases hfound

end KeepsWays

/-- A path leads to a file if that stands where the path leads to and no form says that a directory is meant. -/
theorem find_eq_ok :
    tree.find directory path = .ok number ↔
      ∃ place, tree.resolve true directory path = .ok (place, false) ∧ tree.node? place = some (.file number) := by
  unfold find
  constructor
  · intro h
    split at h
    · cases h
    next place isDirectory hplace =>
      split at h
      · cases h
      · cases h
      · cases h
      next hfile =>
        split_ifs at h with hform
        cases h
        exact ⟨place, by simpa [hform] using hplace, hfile⟩
  · rintro ⟨place, hplace, hfile⟩
    simp [hplace, hfile]

/-- A file that is opened to be written stands where its path leads to, whatever is then written to it. It stood there
before, or nothing did and it is a new one. -/
theorem exists_place_of_openEmptied (h : tree.openEmptied storage directory path = .ok (number, tree')) :
    ∃ place, (∀ content, (tree'.fill number content).resolve true directory path = .ok (place, false)) ∧
      tree'.node? place = some (.file number) ∧
      ((tree.node? place = some (.file number) ∧ tree' = tree.fill number []) ∨
        (tree.node? place = none ∧ number = tree.unused ∧
          tree' = (tree.set place (.file number)).fill number [])) := by
  unfold openEmptied at h
  split at h
  · cases h
  next place isDirectory hplace =>
    refine ⟨place, ?_⟩
    split at h
    · cases h
    · cases h
    next hfile =>
      split_ifs at h with hform
      split at h
      · cases h
      cases h
      have hways (content : List UInt8) := (KeepsWays.fill tree number []).trans (.fill _ number content)
      refine ⟨fun content => (hways content).resolve ?_, hfile, .inl ⟨hfile, rfl⟩⟩
      simpa [hform] using hplace
    next hnone =>
      split_ifs at h with hform
      split at h
      · cases h
      cases h
      have hroot : place ≠ [] := by
        rintro rfl
        cases hnone
      have hways (content : List UInt8) := (KeepsWays.set_file hnone tree.unused).trans
        ((KeepsWays.fill _ tree.unused []).trans (.fill _ tree.unused content))
      refine ⟨fun content => (hways content).resolve ?_, node?_set_self hroot, .inr ⟨hnone, rfl, rfl⟩⟩
      simpa [hform] using hplace

/-- Where a file can be written, any other of its length can be written, and the last one written is then read. -/
theorem write_of_ok (h : tree.write storage directory path content = (.ok (), tree')) {content' : List UInt8}
    (hlength : content'.length = content.length) :
    ∃ files, tree.write storage directory path content' = (.ok (), files) ∧
      files.read directory path = .ok content' := by
  unfold write at h ⊢
  split at h
  · cases h
  next number opened hopened =>
    split at h
    next hroom =>
      obtain ⟨place, hplace, hfile, -⟩ := exists_place_of_openEmptied hopened
      have hfind : (opened.fill number content').find directory path = .ok number :=
        find_eq_ok.2 ⟨place, hplace content', hfile⟩
      refine ⟨opened.fill number content', by rw [hlength, hroom], ?_⟩
      simp [read, hfind, content?_fill_self, Except.map]
    · cases h

/-- A file that is read as the octets of a text is read as that text. -/
theorem readText_of_read {text : List Char} (h : tree.read directory path = .ok (Text.Utf8.encode text)) :
    tree.readText directory path = .ok (String.ofList text) := by
  simp [readText, h, Text.Utf8.decode?_eq_some_iff.2 rfl]

end FileTree

namespace Host

variable {h : Host} {path : Path}

/-- A path that so many octets can be written to. -/
def Writable (h : Host) (path : Path) (count : Nat) : Prop :=
  ∃ content, content.length = count ∧ (h.writeFile path content).1 = .ok ()

/-- What is written to a path that can take as much is then read from it. -/
theorem Writable.written {content : List UInt8} (hpath : h.Writable path content.length) :
    ∃ files : FileTree, h.writeFile path content = (.ok (), { h with files }) ∧
      files.read h.workingDirectory path = .ok content := by
  obtain ⟨content₀, hlength, hwritten⟩ := hpath
  unfold writeFile at hwritten ⊢
  split at hwritten
  · cases hwritten
  next files hparents =>
    obtain ⟨files₀, hwrite⟩ : ∃ files₀, files.write h.storage h.workingDirectory path content₀ = (.ok (), files₀) :=
      ⟨_, Prod.ext hwritten rfl⟩
    obtain ⟨files', hwrite', hread⟩ := FileTree.write_of_ok hwrite hlength.symm
    exact ⟨files', by rw [hwrite'], hread⟩

end Host

end Loopback
