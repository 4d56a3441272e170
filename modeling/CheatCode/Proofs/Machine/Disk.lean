/-
# What a disk keeps

Whether a path can be walked depends on the directories alone, so a walk that succeeds does so
too on a disk with more in it (`Disk.walk_congr`), and so does a reading (`Disk.Extends.read`).
Making sure of a file, as is done for a log, only adds to a disk (`Disk.extends_ensure`): what could
be read before is read the same after.  A file that has been written is read back with exactly its
content (`Disk.read_write`), and no other file is touched (`Disk.sameBut_put`).  An entry in a log
leaves the tree as it was (`Disk.sameTree_append`), so every path leads where it did.

A path from the root and one from the working directory are two ways to one location
(`Disk.walk_root_here`), so what is said of the files at a location holds by either.
-/

import CheatCode.Machine.Disk
import CheatCode.Proofs.Text.Lines

namespace CheatCode

/-- Two computations that may fail succeed together exactly if both do, one after the other. -/
theorem bind_eq_ok {ε α β : Type} {x : Except ε α} {f : α → Except ε β} {b : β} :
    x >>= f = .ok b ↔ ∃ a, x = .ok a ∧ f a = .ok b := by
  constructor
  · intro h
    cases x with
    | error e => cases h
    | ok a => exact ⟨a, rfl, h⟩
  · rintro ⟨a, rfl, h⟩
    exact h

namespace Disk

/-- One disk has everything that another one has. -/
structure Extends (disk larger : Disk) : Prop where
  here : larger.here = disk.here
  directories : ∀ {location}, disk.isDirectory location = true →
    larger.isDirectory location = true
  files : ∀ {location file}, disk.fileAt? location = some file →
    larger.fileAt? location = some file

theorem Extends.refl (disk : Disk) : disk.Extends disk := ⟨rfl, id, id⟩

theorem Extends.trans {a b c : Disk} (hab : a.Extends b) (hbc : b.Extends c) : a.Extends c :=
  ⟨hbc.here.trans hab.here, fun h => hbc.directories (hab.directories h),
    fun h => hbc.files (hab.files h)⟩

/-- The walk of a path starts at the same location from the same working directory. -/
theorem start_congr {disk other : Disk} (h : other.here = disk.here) (path : String) :
    other.start path = disk.start path := by
  rw [start, start, h]

/-- A step of a walk that succeeds stays possible where its directory stays one. -/
theorem enter_congr {disk other : Disk} {location next : Location} {name : String}
    (hdir : disk.isDirectory location = true → other.isDirectory location = true)
    (h : disk.enter location name = .ok next) : other.enter location name = .ok next := by
  by_cases hd : disk.isDirectory location = true
  · rw [enter, if_pos hd] at h
    rw [enter, if_pos (hdir hd), h]
  · rw [enter, if_neg hd] at h
    split at h <;> cases h

/-- A walk that succeeds stays possible where all directories stay. -/
theorem walk_congr {disk other : Disk}
    (hdir : ∀ {location}, disk.isDirectory location = true → other.isDirectory location = true)
    {location goal : Location} {names : List String}
    (h : disk.walk location names = .ok goal) : other.walk location names = .ok goal := by
  induction names generalizing location with
  | nil => exact h
  | cons name names ih =>
    rw [walk, List.foldlM_cons, bind_eq_ok] at h ⊢
    obtain ⟨next, hnext, hrest⟩ := h
    exact ⟨next, enter_congr hdir hnext, ih hrest⟩

/-- **What can be read is read the same on a disk with more in it.** -/
theorem Extends.read {disk larger : Disk} (hext : disk.Extends larger) {path : String}
    {file : File} (h : disk.read path = .ok file) : larger.read path = .ok file := by
  rw [Disk.read, bind_eq_ok] at h ⊢
  obtain ⟨_, hcheck, h⟩ := h
  rw [bind_eq_ok] at h
  obtain ⟨location, hwalk, h⟩ := h
  rw [← start_congr hext.here] at hwalk
  refine ⟨(), hcheck, bind_eq_ok.2 ⟨location, walk_congr hext.directories hwalk, ?_⟩⟩
  cases hfile : disk.fileAt? location with
  | none => rw [hfile] at h; cases h
  | some found =>
    rw [hfile] at h
    rw [hext.files hfile]
    exact h

theorem extends_makeDirectory (disk : Disk) (location : Location) :
    disk.Extends (disk.makeDirectory location) := by
  unfold makeDirectory
  split
  · exact .refl disk
  · refine ⟨rfl, fun {other} h => ?_, id⟩
    simp only [isDirectory, Bool.or_eq_true, List.contains_iff_mem, List.mem_cons] at h ⊢
    exact h.imp_right .inr

theorem extends_makeDirectories {disk larger : Disk} {location : Location} {names : List String}
    (h : disk.makeDirectories location names = .ok larger) : disk.Extends larger := by
  induction names generalizing disk location with
  | nil => cases h; exact .refl _
  | cons name names ih =>
    rw [makeDirectories, bind_eq_ok] at h
    obtain ⟨next, -, h⟩ := h
    split at h
    · cases h
    · exact (disk.extends_makeDirectory next).trans (ih h)

/-- To make directories changes no file. -/
theorem fileAt?_makeDirectories {disk larger : Disk} {location : Location} {names : List String}
    (h : disk.makeDirectories location names = .ok larger) (other : Location) :
    larger.fileAt? other = disk.fileAt? other := by
  have hmake : ∀ (disk : Disk) (location : Location),
      (disk.makeDirectory location).fileAt? other = disk.fileAt? other := by
    intro disk location
    unfold makeDirectory
    split <;> rfl
  induction names generalizing disk location with
  | nil => cases h; rfl
  | cons name names ih =>
    rw [makeDirectories, bind_eq_ok] at h
    obtain ⟨next, -, h⟩ := h
    split at h
    · cases h
    · rw [ih h, hmake]

/-- A file put where none was adds to a disk. -/
theorem extends_put {disk : Disk} {location : Location} (file : File)
    (h : disk.fileAt? location = none) : disk.Extends (disk.put location file) := by
  refine ⟨rfl, fun hdir => hdir, fun {other found} hfound => ?_⟩
  have hne : other ≠ location := by
    rintro rfl
    rw [h] at hfound
    cases hfound
  rwa [fileAt?_put_of_ne disk file hne]

/-- **Making sure of a file only adds to a disk.** -/
theorem extends_ensure {disk larger : Disk} {path : String}
    (h : disk.ensure path = .ok larger) : disk.Extends larger := by
  rw [ensure, bind_eq_ok] at h
  obtain ⟨_, -, h⟩ := h
  rw [bind_eq_ok] at h
  obtain ⟨made, hmade, h⟩ := h
  rw [bind_eq_ok] at h
  obtain ⟨location, -, h⟩ := h
  refine (extends_makeDirectories hmade).trans ?_
  cases hfile : made.fileAt? location with
  | none =>
    simp only [hfile, Option.isSome_none, Bool.false_eq_true, if_false] at h
    cases h
    exact extends_put {} hfile
  | some file =>
    simp only [hfile, Option.isSome_some, if_true] at h
    cases h
    exact .refl _

/-- The names of a path that does not end in `/` do not end in an empty one. -/
theorem names_reverse_dropWhile {path : String} (hne : path.isEmpty = false)
    (hlast : path.toList.getLast? ≠ some '/') :
    ((names path).reverse.dropWhile String.isEmpty).reverse = names path := by
  have hfields := Text.getLast?_fields_ne_nil (by simpa using hne) hlast
  obtain ⟨front, last, hlist⟩ := (List.eq_nil_or_concat (Text.fields '/' path.toList)).resolve_left
    (Text.fields_ne_nil '/' path.toList)
  rw [List.concat_eq_append] at hlist
  rw [hlist, List.getLast?_concat] at hfields
  have hfalse : (String.ofList last).isEmpty = false := by simpa using hfields
  rw [names, hlist, List.map_append, List.map_singleton, List.reverse_append,
    List.reverse_singleton, List.singleton_append, List.dropWhile_cons_of_neg (by simp [hfalse])]
  simp

/-- A path leads to a location: it can be walked, and this is where the walk ends. -/
def Leads (disk : Disk) (path : String) (location : Location) : Prop :=
  checkPath path = .ok () ∧ disk.walk (disk.start path) (names path) = .ok location

/-- Where a path lets a file be written is where it leads. -/
theorem leads_of_slot {disk : Disk} {path : String} {location : Location}
    (h : disk.slot path = .ok location) : disk.Leads path location := by
  rw [slot, bind_eq_ok] at h
  obtain ⟨_, hcheck, h⟩ := h
  rw [bind_eq_ok] at h
  obtain ⟨goal, hwalk, h⟩ := h
  split at h
  · cases h
  · rename_i hfile
    cases h
    rw [not_or] at hfile
    have hne : path.isEmpty = false := by
      unfold checkPath at hcheck
      grind
    rw [names_reverse_dropWhile hne hfile.1] at hwalk
    exact ⟨hcheck, hwalk⟩

/-- A path lets a file be written at the same location where the directories are the same. -/
theorem slot_congr {disk other : Disk} (hhere : other.here = disk.here)
    (hdir : ∀ location, other.isDirectory location = disk.isDirectory location) {path : String}
    {location : Location} (h : disk.slot path = .ok location) : other.slot path = .ok location := by
  rw [slot, bind_eq_ok] at h ⊢
  obtain ⟨_, hcheck, h⟩ := h
  rw [bind_eq_ok] at h
  obtain ⟨goal, hwalk, h⟩ := h
  rw [← start_congr hhere] at hwalk
  refine ⟨(), hcheck, bind_eq_ok.2 ⟨goal, walk_congr (fun hd => by rwa [hdir]) hwalk, ?_⟩⟩
  rwa [hdir]

/-- The file where a path leads is the one that is read. -/
theorem Leads.read {disk : Disk} {path : String} {location : Location} {file : File}
    (h : disk.Leads path location) (hfile : disk.fileAt? location = some file) :
    disk.read path = .ok file := by
  rw [Disk.read, bind_eq_ok]
  refine ⟨(), h.1, bind_eq_ok.2 ⟨location, h.2, ?_⟩⟩
  rw [hfile]

/-- **A file that has been written is read back with its content.** -/
theorem read_write {disk written : Disk} {path : String} {content : ByteArray}
    (h : disk.write path content = .ok written) :
    written.read path = .ok { bytes := content } := by
  rw [write, bind_eq_ok] at h
  obtain ⟨location, hslot, h⟩ := h
  cases h
  obtain ⟨hcheck, hwalk⟩ := leads_of_slot hslot
  have hleads : (disk.put location { bytes := content }).Leads path location :=
    ⟨hcheck, walk_congr (fun hdir => by rwa [isDirectory_put]) hwalk⟩
  exact hleads.read (disk.fileAt?_put_self location _)

/-- **A file that has been made sure of is there**: the one that was there before, or an empty
one. -/
theorem exists_slot_ensure {disk opened : Disk} {path : String}
    (h : disk.ensure path = .ok opened) :
    ∃ location, opened.slot path = .ok location ∧
      opened.fileAt? location = some ((disk.fileAt? location).getD {}) := by
  rw [ensure, bind_eq_ok] at h
  obtain ⟨_, -, h⟩ := h
  rw [bind_eq_ok] at h
  obtain ⟨made, hmade, h⟩ := h
  rw [bind_eq_ok] at h
  obtain ⟨location, hslot, h⟩ := h
  cases hfile : made.fileAt? location with
  | none =>
    simp only [hfile, Option.isSome_none, Bool.false_eq_true, if_false] at h
    cases h
    refine ⟨location, slot_congr (here_put made location {})
      (fun other => isDirectory_put made location other {}) hslot, ?_⟩
    rw [fileAt?_put_self, ← fileAt?_makeDirectories hmade, hfile, Option.getD_none]
  | some file =>
    simp only [hfile, Option.isSome_some, if_true] at h
    cases h
    refine ⟨location, hslot, ?_⟩
    rw [← fileAt?_makeDirectories hmade, hfile, Option.getD_some]

/-! ## The working directory -/

/-- A walk goes down by a name, and not back or nowhere. -/
def GoesDown (name : String) : Prop :=
  name.isEmpty = false ∧ name ≠ "." ∧ name ≠ ".." ∧ name.utf8ByteSize ≤ nameLimit

/-- The names of the working directory lead to it from the root, through the directories above. -/
theorem walk_reverse_of_suffix {disk : Disk} (hnames : ∀ name ∈ disk.here.names, GoesDown name)
    {names : List String} (hsuffix : names <:+ disk.here.names) :
    disk.walk {} names.reverse = .ok ⟨names⟩ := by
  induction names with
  | nil => rfl
  | cons name names ih =>
    obtain ⟨hempty, hhere, hup, hlength⟩ := hnames name (hsuffix.subset List.mem_cons_self)
    have habove : names <:+ disk.here.names := (List.suffix_cons name names).trans hsuffix
    have hdirectory : disk.isDirectory ⟨names⟩ = true := by
      rw [isDirectory, List.isSuffixOf_iff_suffix.2 habove, Bool.true_or]
    have henter : disk.enter ⟨names⟩ name = .ok ⟨name :: names⟩ := by
      simp [enter, hdirectory, hempty, hhere, hup, Nat.not_lt.2 hlength, Location.child]
    rw [List.reverse_cons, walk, List.foldlM_append, bind_eq_ok]
    exact ⟨_, ih habove, by rw [List.foldlM_cons, henter]; rfl⟩

/-- **A path from the root through the working directory leads where the rest of it leads from
there.** -/
theorem walk_root_here {disk : Disk} (hnames : ∀ name ∈ disk.here.names, GoesDown name)
    (names : List String) :
    disk.walk {} (disk.here.names.reverse ++ names) = disk.walk disk.here names := by
  rw [walk, List.foldlM_append]
  exact congrArg (· >>= fun location => names.foldlM disk.enter location)
    (walk_reverse_of_suffix hnames List.suffix_rfl)

/-! ## What is not touched -/

/-- A disk is another one but for the files at some locations. -/
structure SameBut (excepted : Location → Prop) (before after : Disk) : Prop where
  here : after.here = before.here
  files : ∀ {location}, ¬ excepted location → after.fileAt? location = before.fileAt? location
  directories : ∀ location, after.isDirectory location = before.isDirectory location

theorem SameBut.refl (excepted : Location → Prop) (disk : Disk) : SameBut excepted disk disk :=
  ⟨rfl, fun _ => rfl, fun _ => rfl⟩

theorem SameBut.trans {excepted : Location → Prop} {a b c : Disk} (hab : SameBut excepted a b)
    (hbc : SameBut excepted b c) : SameBut excepted a c :=
  ⟨hbc.here.trans hab.here, fun h => (hbc.files h).trans (hab.files h),
    fun location => (hbc.directories location).trans (hab.directories location)⟩

/-- More may be excepted. -/
theorem SameBut.mono {excepted more : Location → Prop} {before after : Disk}
    (h : SameBut excepted before after) (himp : ∀ {location}, excepted location → more location) :
    SameBut more before after :=
  ⟨h.here, fun hmore => h.files fun hexcepted => hmore (himp hexcepted), h.directories⟩

/-- **A file put at a location changes no other file and no directory.** -/
theorem sameBut_put (disk : Disk) (location : Location) (file : File) :
    SameBut (· = location) disk (disk.put location file) :=
  ⟨rfl, fun hne => fileAt?_put_of_ne disk file hne,
    fun other => isDirectory_put disk location other file⟩

/-- **A path that leads to no file excepted is read the same.** -/
theorem SameBut.read {excepted : Location → Prop} {before after : Disk} {path : String}
    {location : Location} (h : SameBut excepted before after) (hleads : before.Leads path location)
    (hexcepted : ¬ excepted location) : after.read path = before.read path := by
  obtain ⟨hcheck, hwalk⟩ := hleads
  have hwalk' : after.walk (after.start path) (names path) = .ok location := by
    rw [start_congr h.here]
    exact walk_congr (fun hdir => (h.directories _).trans hdir) hwalk
  simp only [Disk.read, hcheck, hwalk, hwalk', bind, Except.bind, h.files hexcepted, h.directories]

/-! ## Entries in a log -/

/-- Two disks have files and directories at the same locations, and one working directory. -/
structure SameTree (a b : Disk) : Prop where
  here : b.here = a.here
  directories : ∀ location, b.isDirectory location = a.isDirectory location
  files : ∀ location, (b.fileAt? location).isSome = (a.fileAt? location).isSome

theorem SameTree.refl (disk : Disk) : disk.SameTree disk := ⟨rfl, fun _ => rfl, fun _ => rfl⟩

theorem SameTree.trans {a b c : Disk} (hab : a.SameTree b) (hbc : b.SameTree c) : a.SameTree c :=
  ⟨hbc.here.trans hab.here,
    fun location => (hbc.directories location).trans (hab.directories location),
    fun location => (hbc.files location).trans (hab.files location)⟩

theorem SameTree.enter_eq {a b : Disk} (h : a.SameTree b) : b.enter = a.enter := by
  funext location name
  rw [enter, enter, h.directories, h.files]

/-- **A path lets a file be written at the same location, or not at all for the same reason.** -/
theorem SameTree.slot_eq {a b : Disk} (h : a.SameTree b) (path : String) :
    b.slot path = a.slot path := by
  simp only [slot, walk, start_congr h.here, h.enter_eq, h.directories]

/-- An entry in a log changes the log's file and nothing else. -/
theorem sameBut_append (disk : Disk) (path : String) (event : Event) :
    SameBut (fun location => disk.slot path = .ok location) disk (disk.append path event) := by
  unfold append
  cases hslot : disk.slot path with
  | error e => exact .refl _ _
  | ok location =>
    cases hfile : disk.fileAt? location with
    | none => simp only [hfile]; exact .refl _ _
    | some file =>
      simp only [hfile]
      exact (disk.sameBut_put location _).mono fun heq => congrArg _ heq.symm

/-- **An entry in a log makes no file and no directory.** -/
theorem sameTree_append (disk : Disk) (path : String) (event : Event) :
    disk.SameTree (disk.append path event) := by
  have hsame := disk.sameBut_append path event
  refine ⟨hsame.here, hsame.directories, fun other => ?_⟩
  unfold append
  cases hslot : disk.slot path with
  | error e => rfl
  | ok location =>
    cases hfile : disk.fileAt? location with
    | none => simp only [hfile]
    | some file =>
      simp only [hfile]
      by_cases hother : other = location
      · rw [hother, fileAt?_put_self, hfile]
        rfl
      · rw [fileAt?_put_of_ne disk _ hother]

end Disk
end CheatCode
