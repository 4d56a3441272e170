/-
# Disks

A tree of directories with files in it, used by paths.  A path is walked name by name, from the
root if it starts with `/` and else from the working directory.  Empty names and `.` stay, `..`
goes to the directory above, and any other name goes down; every name but the last must lead to a
directory.

A location is told from the root, so a file has one location by whatever path it is asked for:
`/work/a`, `a` and `../work/a` lead to one file from the working directory `/work`.  There are no
links on a disk: two locations are two files.
-/

import CheatCode.Host
import CheatCode.Text.Lines

namespace CheatCode

/-- A location of a file or a directory: the names that lead to it from the root, the last one
first. -/
structure Location where
  names : List String := []
  deriving DecidableEq, Repr

namespace Location

/-- The location of a name in a directory. -/
def child (location : Location) (name : String) : Location := ⟨name :: location.names⟩

/-- The directory above a location; nothing is above the root. -/
def parent (location : Location) : Location := ⟨location.names.tail⟩

end Location

/-- A file: its bytes and the events appended to it since they were written.  The text of such an
event tells the time at which it was appended, which is not known here. -/
structure File where
  bytes : ByteArray := .empty
  events : List Event := []

/-- The files and directories that have been made, and the place of the working directory, which is
there in any case with the directories above it. -/
structure Disk where
  files : List (Location × File) := []
  directories : List Location := []
  here : Location := ⟨["work"]⟩

namespace Disk

/-- The file at a location. -/
def fileAt? (disk : Disk) (location : Location) : Option File := disk.files.lookup location

/-- Whether a location is a directory. -/
def isDirectory (disk : Disk) (location : Location) : Bool :=
  location.names.isSuffixOf disk.here.names || disk.directories.contains location

/-- The disk with a file put at a location. -/
def put (disk : Disk) (location : Location) (file : File) : Disk :=
  { disk with files := (location, file) :: disk.files.filter (·.1 ≠ location) }

@[simp] theorem fileAt?_put_self (disk : Disk) (location : Location) (file : File) :
    (disk.put location file).fileAt? location = some file := by
  simp [fileAt?, put]

/-- Leaving out the pairs of one name does not change what another one has. -/
theorem lookup_filter_ne {α β : Type} [DecidableEq α] {a b : α} (h : b ≠ a) (l : List (α × β)) :
    (l.filter (·.1 ≠ a)).lookup b = l.lookup b := by
  induction l with
  | nil => rfl
  | cons p l ih =>
    obtain ⟨k, v⟩ := p
    by_cases hk : k = a
    · subst hk
      rw [List.filter_cons_of_neg (by simp), ih, List.lookup_cons, beq_eq_false_iff_ne.2 h]
    · rw [List.filter_cons_of_pos (by simpa using hk), List.lookup_cons, List.lookup_cons, ih]

/-- A file put at one location does not change what is at another. -/
theorem fileAt?_put_of_ne (disk : Disk) {location other : Location} (file : File)
    (h : other ≠ location) : (disk.put location file).fileAt? other = disk.fileAt? other := by
  simp only [fileAt?, put, List.lookup_cons, beq_eq_false_iff_ne.2 h]
  exact lookup_filter_ne h disk.files

@[simp] theorem isDirectory_put (disk : Disk) (location other : Location) (file : File) :
    (disk.put location file).isDirectory other = disk.isDirectory other := rfl

@[simp] theorem here_put (disk : Disk) (location : Location) (file : File) :
    (disk.put location file).here = disk.here := rfl

/-- The disk with a directory made at a location, unless there is one. -/
def makeDirectory (disk : Disk) (location : Location) : Disk :=
  if disk.isDirectory location then disk
  else { disk with directories := location :: disk.directories }

@[simp] theorem here_makeDirectory (disk : Disk) (location : Location) :
    (disk.makeDirectory location).here = disk.here := by
  unfold makeDirectory
  split <;> rfl

/-- The names of a path. -/
def names (path : String) : List String := (Text.fields '/' path.toList).map String.ofList

/-- Where the walk of a path starts. -/
def start (disk : Disk) (path : String) : Location :=
  if path.toList.head? = some '/' then {} else disk.here

/-- How long a name may be, in bytes. -/
def nameLimit : Nat := 255

/-- What the length of a path in bytes must stay below. -/
def pathLimit : Nat := 4096

/-- One step of a walk. -/
def enter (disk : Disk) (location : Location) (name : String) : Except FileError Location :=
  if disk.isDirectory location then
    if name.isEmpty || name == "." then .ok location
    else if name == ".." then .ok location.parent
    else if nameLimit < name.utf8ByteSize then .error .nameTooLong
    else .ok (location.child name)
  else if (disk.fileAt? location).isSome then .error .notDirectory
  else .error .notFound

/-- Walks names from a location.  The location at the end need not be taken. -/
def walk (disk : Disk) (location : Location) (names : List String) : Except FileError Location :=
  names.foldlM disk.enter location

/-- Refuses the paths that no walk can start on. -/
def checkPath (path : String) : Except FileError Unit :=
  if path.toList.contains '\x00' then .error .zeroInName
  else if path.isEmpty then .error .notFound
  else if pathLimit ≤ path.utf8ByteSize then .error .nameTooLong
  else .ok ()

/-- The file that a path leads to. -/
def read (disk : Disk) (path : String) : Except FileError File := do
  checkPath path
  let location ← disk.walk (disk.start path) (names path)
  match disk.fileAt? location with
  | some file => .ok file
  | none => .error (if disk.isDirectory location then .isDirectory else .notFound)

/-- The location where a path lets a file be written.  A path that ends in `/` asks for a
directory. -/
def slot (disk : Disk) (path : String) : Except FileError Location := do
  checkPath path
  let location ← disk.walk (disk.start path) ((names path).reverse.dropWhile String.isEmpty).reverse
  if path.toList.getLast? = some '/' ∨ disk.isDirectory location then .error .isDirectory
  else .ok location

/-- Makes or replaces the file that a path leads to. -/
def write (disk : Disk) (path : String) (content : ByteArray) : Except FileError Disk := do
  return disk.put (← disk.slot path) { bytes := content }

/-- Makes the directories on a walk that are not there. -/
def makeDirectories (disk : Disk) (location : Location) : List String → Except FileError Disk
  | [] => .ok disk
  | name :: names => do
    let next ← disk.enter location name
    if (disk.fileAt? next).isSome then .error .notDirectory
    else (disk.makeDirectory next).makeDirectories next names

/-- Makes sure that a path leads to a file, and the directories on the way to it. -/
def ensure (disk : Disk) (path : String) : Except FileError Disk := do
  checkPath path
  let disk ← disk.makeDirectories (disk.start path) (names path).dropLast
  let location ← disk.slot path
  return if (disk.fileAt? location).isSome then disk else disk.put location {}

/-- Appends an event to the file that a path leads to, if there is one. -/
def append (disk : Disk) (path : String) (event : Event) : Disk :=
  match disk.slot path with
  | .ok location =>
    match disk.fileAt? location with
    | some file => disk.put location { file with events := file.events ++ [event] }
    | none => disk
  | .error _ => disk

/-- A disk with some files, each at its path; a path where no file can be is left out. -/
def ofFiles (files : List (String × ByteArray)) : Disk :=
  files.foldl (fun disk (path, bytes) =>
    match do (← disk.ensure path).write path bytes with
    | .ok disk => disk
    | .error _ => disk) {}

end Disk
end CheatCode
