import Mathlib.Data.Set.Basic
import Mathlib.Logic.Function.Basic
import TvcGpg.Lib.Text

/-!
# Files behind names

A file system in which several names may lead to one file: a name is a file, a
link to another name, or a directory, and two names may have the same file.  The
contents belong to the file and not to the name, so truncating a file through
one name empties it for every other.  `create` is what opening a file for
writing does: it empties the file at the end of the links, or makes one there.

What a program relies on is which files it leaves alone.  A file is the same
after any other file was written (`readFile_setContents_of_ne`), and after a new
one was made (`readFile_addFile`).  `Frame` says so of a whole program: outside
some names and some files nothing has changed, step after step.
-/

namespace Lib
namespace Files

/-- What a name leads to. -/
inductive Entry (π : Type*)
  | file (inode : Nat)
  | link (target : π)
  | directory

/-- The names and the files, whose contents are only of files that exist. -/
structure FileSystem (π : Type*) where
  entry : π → Option (Entry π)
  contents : Nat → Bytes
  readable : Nat → Bool
  writable : Nat → Bool
  /-- Whether a file can be made under a name. -/
  creatable : π → Bool
  /-- The number of the next file. -/
  next : Nat
  fresh : ∀ path inode, entry path = some (.file inode) → inode < next

/-- How many links are followed at most. -/
def maxLinks : Nat := 40

namespace FileSystem

variable {π : Type*}

/-! ## Reading and writing files that exist -/

section Existing

variable (fs : FileSystem π)

/-- The name at the end of the links. -/
def follow : Nat → π → Option π
  | 0, path =>
      match fs.entry path with
      | some (.link _) => none
      | _ => some path
  | links + 1, path =>
      match fs.entry path with
      | some (.link target) => follow links target
      | _ => some path

/-- The file a path leads to. -/
def inodeAt (path : π) : Option Nat :=
  match (fs.follow maxLinks path).bind fs.entry with
  | some (.file inode) => some inode
  | _ => none

/-- Read a whole file. -/
def readFile (path : π) : Option Bytes :=
  match fs.inodeAt path with
  | some inode => if fs.readable inode then some (fs.contents inode) else none
  | none => none

/-- Replace what a file holds. -/
def setContents (inode : Nat) (bytes : Bytes) : FileSystem π :=
  { fs with contents := Function.update fs.contents inode bytes }

end Existing

variable {fs : FileSystem π}

theorem inodeAt_eq_some_iff {path : π} {inode : Nat} :
    fs.inodeAt path = some inode ↔
      ∃ name, fs.follow maxLinks path = some name ∧ fs.entry name = some (.file inode) := by
  unfold inodeAt
  constructor
  · intro hInode
    split at hInode
    · rename_i found hFound
      obtain rfl := Option.some.inj hInode
      exact Option.bind_eq_some_iff.mp hFound
    · cases hInode
  · intro hName
    obtain ⟨name, hFollow, hEntry⟩ := hName
    rw [hFollow, Option.bind_some, hEntry]

theorem readFile_eq_some_iff {path : π} {bytes : Bytes} :
    fs.readFile path = some bytes ↔
      ∃ inode, fs.inodeAt path = some inode ∧ fs.readable inode = true ∧
        fs.contents inode = bytes := by
  unfold readFile
  constructor
  · intro hRead
    split at hRead
    · rename_i inode hInode
      split at hRead
      · rename_i hReadable
        exact ⟨inode, hInode, hReadable, Option.some.inj hRead⟩
      · cases hRead
    · cases hRead
  · intro hInode
    obtain ⟨inode, hInode, hReadable, rfl⟩ := hInode
    rw [hInode]
    exact if_pos hReadable

theorem inodeAt_lt_next {path : π} {inode : Nat} (hInode : fs.inodeAt path = some inode) :
    inode < fs.next := by
  obtain ⟨name, -, hEntry⟩ := inodeAt_eq_some_iff.mp hInode
  exact fs.fresh name inode hEntry

theorem follow_setContents (inode : Nat) (bytes : Bytes) (links : Nat) (path : π) :
    (fs.setContents inode bytes).follow links path = fs.follow links path := by
  induction links generalizing path with
  | zero => rfl
  | succ links ih =>
      show (match fs.entry path with
        | some (.link target) => (fs.setContents inode bytes).follow links target
        | _ => some path) = _
      rw [follow]
      split
      · exact ih _
      · rfl

/-- A write leaves the names as they are. -/
@[simp]
theorem inodeAt_setContents (inode : Nat) (bytes : Bytes) (path : π) :
    (fs.setContents inode bytes).inodeAt path = fs.inodeAt path := by
  unfold inodeAt
  rw [follow_setContents]
  rfl

/-- A file is the same after another one was written. -/
theorem readFile_setContents_of_ne {inode other : Nat} {path : π} (bytes : Bytes)
    (hPath : fs.inodeAt path = some inode) (hNe : inode ≠ other) :
    (fs.setContents other bytes).readFile path = fs.readFile path := by
  unfold readFile
  rw [inodeAt_setContents, hPath]
  show (if _ then some (Function.update fs.contents other bytes inode) else none) = _
  rw [Function.update_of_ne hNe]
  rfl

/-- A file that was written holds what was written. -/
theorem readFile_setContents_self {inode : Nat} {path : π} (bytes : Bytes)
    (hPath : fs.inodeAt path = some inode) (hReadable : fs.readable inode = true) :
    (fs.setContents inode bytes).readFile path = some bytes := by
  refine readFile_eq_some_iff.mpr ⟨inode, ?_, hReadable, Function.update_self _ _ _⟩
  rw [inodeAt_setContents, hPath]

/-! ## What a program changes -/

/-- Outside these names and these files nothing has changed. -/
structure Frame (fs fs' : FileSystem π) (names : Set π) (inodes : Set Nat) : Prop where
  entry : ∀ name ∉ names, fs'.entry name = fs.entry name
  contents : ∀ inode ∉ inodes, fs'.contents inode = fs.contents inode
  readable : ∀ inode ∉ inodes, fs'.readable inode = fs.readable inode

section Frame

variable {fs' fs'' : FileSystem π} {names : Set π} {inodes : Set Nat}

/-- A path that leads to a file still does where every name there was is what it was. -/
theorem follow_of_entries
    (hEntries : ∀ other, fs.entry other ≠ none → fs'.entry other = fs.entry other) {links : Nat}
    {path found : π} {inode : Nat} (hFollow : fs.follow links path = some found)
    (hFound : fs.entry found = some (.file inode)) : fs'.follow links path = some found := by
  have hFile : fs'.entry found = some (.file inode) := by
    rw [hEntries found (by rw [hFound]; exact Option.some_ne_none _), hFound]
  induction links generalizing path with
  | zero =>
      rw [follow] at hFollow
      split at hFollow
      · cases hFollow
      · obtain rfl := Option.some.inj hFollow
        rw [follow, hFile]
  | succ links ih =>
      rw [follow] at hFollow
      split at hFollow
      · rename_i target hLink
        rw [follow, hEntries path (by rw [hLink]; exact Option.some_ne_none _), hLink]
        exact ih hFollow
      · obtain rfl := Option.some.inj hFollow
        rw [follow, hFile]

theorem Frame.refl (fs : FileSystem π) (names : Set π) (inodes : Set Nat) :
    Frame fs fs names inodes :=
  ⟨fun _ _ => rfl, fun _ _ => rfl, fun _ _ => rfl⟩

/-- One step after the other. -/
theorem Frame.trans (hFrame : Frame fs fs' names inodes) (hNext : Frame fs' fs'' names inodes) :
    Frame fs fs'' names inodes where
  entry name hName := (hNext.entry name hName).trans (hFrame.entry name hName)
  contents inode hInode := (hNext.contents inode hInode).trans (hFrame.contents inode hInode)
  readable inode hInode := (hNext.readable inode hInode).trans (hFrame.readable inode hInode)

/-- What a path led to is the same where only names that nobody had were changed, and other
files. -/
theorem Frame.readFile (hFrame : Frame fs fs' names inodes)
    (hAbsent : ∀ name ∈ names, fs.entry name = none) {path : π} {inode : Nat}
    (hPath : fs.inodeAt path = some inode) (hOther : inode ∉ inodes) :
    fs'.readFile path = fs.readFile path := by
  have hEntries : ∀ name, fs.entry name ≠ none → fs'.entry name = fs.entry name :=
    fun name hSome => hFrame.entry name fun hName => hSome (hAbsent name hName)
  obtain ⟨found, hFollow, hFound⟩ := inodeAt_eq_some_iff.mp hPath
  have hPath' : fs'.inodeAt path = some inode := by
    refine inodeAt_eq_some_iff.mpr ⟨found, follow_of_entries hEntries hFollow hFound, ?_⟩
    exact (hEntries found (by rw [hFound]; exact Option.some_ne_none _)).trans hFound
  unfold FileSystem.readFile
  rw [hPath, hPath']
  dsimp only
  rw [hFrame.readable inode hOther, hFrame.contents inode hOther]

end Frame

/-! ## Making files -/

variable [DecidableEq π]

section Making

variable (fs : FileSystem π)

/-- Make a file under a name. -/
def addFile (path : π) (bytes : Bytes) : FileSystem π where
  entry := Function.update fs.entry path (some (.file fs.next))
  contents := Function.update fs.contents fs.next bytes
  readable := Function.update fs.readable fs.next true
  writable := Function.update fs.writable fs.next true
  creatable := fs.creatable
  next := fs.next + 1
  fresh := by
    intro other inode hEntry
    by_cases hSame : other = path
    · subst hSame
      rw [Function.update_self] at hEntry
      cases hEntry
      exact Nat.lt_succ_self _
    · rw [Function.update_of_ne hSame] at hEntry
      exact Nat.lt_succ_of_lt (fs.fresh _ _ hEntry)

/-- Take a name away. -/
def removeName (path : π) : FileSystem π :=
  { fs with
    entry := Function.update fs.entry path none
    fresh := by
      intro other inode hEntry
      by_cases hSame : other = path
      · subst hSame
        rw [Function.update_self] at hEntry
        cases hEntry
      · rw [Function.update_of_ne hSame] at hEntry
        exact fs.fresh _ _ hEntry }

/-- Open a file for writing, empty: the one the path leads to, or a new one. -/
def create (path : π) : Option (FileSystem π × Nat) :=
  match fs.follow maxLinks path with
  | none => none
  | some name =>
      match fs.entry name with
      | some (.file inode) =>
          if fs.writable inode then some (fs.setContents inode [], inode) else none
      | some _ => none
      | none => if fs.creatable name then some (fs.addFile name [], fs.next) else none

/-- Make a file under a name nothing has yet. -/
def createNew (path : π) (bytes : Bytes) : Option (FileSystem π) :=
  if (fs.entry path).isNone ∧ fs.creatable path = true then some (fs.addFile path bytes) else none

end Making

@[simp]
theorem entry_addFile_self (fs : FileSystem π) (name : π) (bytes : Bytes) :
    (fs.addFile name bytes).entry name = some (.file fs.next) :=
  Function.update_self _ _ _

theorem entry_addFile_of_ne {name other : π} (bytes : Bytes) (hNe : other ≠ name) :
    (fs.addFile name bytes).entry other = fs.entry other :=
  Function.update_of_ne hNe _ _

/-- Making a file changes no name there was. -/
theorem entry_addFile {name : π} (hAbsent : fs.entry name = none) (bytes : Bytes) {other : π}
    (hSome : fs.entry other ≠ none) : (fs.addFile name bytes).entry other = fs.entry other := by
  refine entry_addFile_of_ne bytes ?_
  rintro rfl
  exact hSome hAbsent

theorem inodeAt_addFile {name : π} (hAbsent : fs.entry name = none) (bytes : Bytes) {path : π}
    {inode : Nat} (hPath : fs.inodeAt path = some inode) :
    (fs.addFile name bytes).inodeAt path = some inode := by
  obtain ⟨found, hFollow, hFound⟩ := inodeAt_eq_some_iff.mp hPath
  have hEntries := fun other => @entry_addFile π fs _ name hAbsent bytes other
  refine inodeAt_eq_some_iff.mpr ⟨found, follow_of_entries hEntries hFollow hFound, ?_⟩
  exact (hEntries found (by rw [hFound]; exact Option.some_ne_none _)).trans hFound

/-- A file is the same after another one was made. -/
theorem readFile_addFile {name : π} (hAbsent : fs.entry name = none) (bytes : Bytes) {path : π}
    {inode : Nat} (hPath : fs.inodeAt path = some inode) :
    (fs.addFile name bytes).readFile path = fs.readFile path := by
  have hNe : inode ≠ fs.next := Nat.ne_of_lt (inodeAt_lt_next hPath)
  unfold readFile
  rw [inodeAt_addFile hAbsent bytes hPath, hPath]
  show (if Function.update fs.readable fs.next true inode then
    some (Function.update fs.contents fs.next bytes inode) else none) = _
  rw [Function.update_of_ne hNe, Function.update_of_ne hNe]

/-- The new file is under its name, -/
theorem inodeAt_addFile_self (fs : FileSystem π) (name : π) (bytes : Bytes) :
    (fs.addFile name bytes).inodeAt name = some fs.next := by
  refine inodeAt_eq_some_iff.mpr ⟨name, ?_, entry_addFile_self fs name bytes⟩
  rw [maxLinks, follow, entry_addFile_self]

/-- and holds what was put into it. -/
theorem readFile_addFile_self (fs : FileSystem π) (name : π) (bytes : Bytes) :
    (fs.addFile name bytes).readFile name = some bytes :=
  readFile_eq_some_iff.mpr ⟨fs.next, inodeAt_addFile_self fs name bytes,
    Function.update_self _ _ _, Function.update_self _ _ _⟩

/-- What opening a file for writing does. -/
theorem create_cases {path : π} {fs' : FileSystem π} {inode : Nat}
    (hCreate : fs.create path = some (fs', inode)) :
    (fs.inodeAt path = some inode ∧ fs.writable inode = true ∧ fs' = fs.setContents inode []) ∨
      (inode = fs.next ∧ ∃ name, fs.follow maxLinks path = some name ∧ fs.entry name = none ∧
        fs' = fs.addFile name []) := by
  unfold create at hCreate
  split at hCreate
  · cases hCreate
  · rename_i name hFollow
    split at hCreate
    · rename_i found hEntry
      split at hCreate
      · rename_i hWritable
        obtain ⟨rfl, rfl⟩ := Prod.mk.inj (Option.some.inj hCreate)
        exact Or.inl ⟨inodeAt_eq_some_iff.mpr ⟨name, hFollow, hEntry⟩, hWritable, rfl⟩
      · cases hCreate
    · cases hCreate
    · rename_i hEntry
      split at hCreate
      · obtain ⟨rfl, rfl⟩ := Prod.mk.inj (Option.some.inj hCreate)
        exact Or.inr ⟨rfl, name, hFollow, hEntry, rfl⟩
      · cases hCreate

/-- A file that can be written is emptied. -/
theorem create_of_inodeAt {path : π} {inode : Nat} (hPath : fs.inodeAt path = some inode)
    (hWritable : fs.writable inode = true) :
    fs.create path = some (fs.setContents inode [], inode) := by
  obtain ⟨name, hFollow, hEntry⟩ := inodeAt_eq_some_iff.mp hPath
  unfold create
  rw [hFollow]
  dsimp only
  rw [hEntry]
  exact if_pos hWritable

/-- Opening a file for writing, and then writing it, spares every other file. -/
theorem readFile_create_of_ne {path output : π} {fs' : FileSystem π} {inode opened : Nat}
    (hCreate : fs.create output = some (fs', opened)) (hPath : fs.inodeAt path = some inode)
    (hNe : inode ≠ opened) (bytes : Bytes) :
    fs'.readFile path = fs.readFile path ∧
      (fs'.setContents opened bytes).readFile path = fs.readFile path := by
  rcases create_cases hCreate with ⟨-, -, rfl⟩ | ⟨-, name, -, hAbsent, rfl⟩
  · have hEmptied := readFile_setContents_of_ne [] hPath hNe
    refine ⟨hEmptied, ?_⟩
    rw [readFile_setContents_of_ne bytes (by rw [inodeAt_setContents, hPath]) hNe, hEmptied]
  · have hMade := readFile_addFile hAbsent [] hPath
    refine ⟨hMade, ?_⟩
    rw [readFile_setContents_of_ne bytes (inodeAt_addFile hAbsent [] hPath) hNe, hMade]

end FileSystem
end Files
end Lib
