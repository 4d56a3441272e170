/-
# Disks that agree but for some files

Two disks of one tree may hold different files at some locations and the same ones at all others
(`Disk.AlikeBut`).  Whatever is done to both of them by the same path goes well on both or fails on
both for the same reason, and leaves them so (`Both`): to make sure of a file, to write one or to
enter an event into one.  What is read is the same unless the path leads to a file that may differ.
-/

import CheatCode.Proofs.Machine.Disk

namespace CheatCode

/-- Two computations go well with related results, or fail for the same reason. -/
inductive Both {ε α β : Type} (related : α → β → Prop) : Except ε α → Except ε β → Prop
  | ok {a : α} {b : β} (h : related a b) : Both related (.ok a) (.ok b)
  | error (e : ε) : Both related (.error e) (.error e)

/-- Computations related in this way can be carried on with. -/
theorem Both.bind {ε α β γ δ : Type} {related : α → β → Prop} {later : γ → δ → Prop}
    {x : Except ε α} {y : Except ε β} {f : α → Except ε γ} {g : β → Except ε δ}
    (h : Both related x y) (hlater : ∀ {a b}, related a b → Both later (f a) (g b)) :
    Both later (x >>= f) (y >>= g) := by
  cases h with
  | ok h => exact hlater h
  | error e => exact .error e

theorem Both.refl {ε α : Type} (x : Except ε α) : Both (· = ·) x x := by
  cases x with
  | ok a => exact .ok rfl
  | error e => exact .error e

namespace Disk

/-- Two disks have one tree and the same files, but for those at some locations. -/
structure AlikeBut (excepted : Location → Prop) (a b : Disk) : Prop where
  tree : a.SameTree b
  same : a.SameBut excepted b

namespace AlikeBut

variable {excepted : Location → Prop} {a b : Disk}

theorem refl (excepted : Location → Prop) (disk : Disk) : AlikeBut excepted disk disk :=
  ⟨.refl disk, .refl excepted disk⟩

theorem symm (h : a.AlikeBut excepted b) : b.AlikeBut excepted a :=
  ⟨⟨h.tree.here.symm, fun location => (h.tree.directories location).symm,
      fun location => (h.tree.files location).symm⟩,
    ⟨h.same.here.symm, fun hother => (h.same.files hother).symm,
      fun location => (h.same.directories location).symm⟩⟩

theorem trans {c : Disk} (hab : a.AlikeBut excepted b) (hbc : b.AlikeBut excepted c) :
    a.AlikeBut excepted c :=
  ⟨hab.tree.trans hbc.tree, hab.same.trans hbc.same⟩

/-- Files put at one location keep two disks alike: they may differ if the location is excepted. -/
theorem put (h : a.AlikeBut excepted b) (location : Location) {file file' : File}
    (hfile : ¬ excepted location → file' = file) :
    (a.put location file).AlikeBut excepted (b.put location file') := by
  refine ⟨⟨h.tree.here, h.tree.directories, fun other => ?_⟩,
    ⟨h.same.here, fun {other} hother => ?_, h.same.directories⟩⟩
  · by_cases hsame : other = location
    · rw [hsame, fileAt?_put_self, fileAt?_put_self]
      rfl
    · rw [fileAt?_put_of_ne b file' hsame, fileAt?_put_of_ne a file hsame, h.tree.files]
  · by_cases hsame : other = location
    · subst hsame
      rw [fileAt?_put_self, fileAt?_put_self, hfile hother]
    · rw [fileAt?_put_of_ne b file' hsame, fileAt?_put_of_ne a file hsame, h.same.files hother]

theorem makeDirectory (h : a.AlikeBut excepted b) (location : Location) :
    (a.makeDirectory location).AlikeBut excepted (b.makeDirectory location) := by
  have hdirectory : ∀ (disk : Disk) (other : Location),
      (disk.makeDirectory location).isDirectory other =
        (disk.isDirectory other || other == location) := by
    intro disk other
    unfold Disk.makeDirectory
    split
    · rename_i hmade
      by_cases hsame : other = location
      · rw [hsame, hmade]
        rfl
      · rw [beq_false_of_ne hsame, Bool.or_false]
    · simp only [isDirectory, List.contains_cons]
      grind
  have hfile : ∀ (disk : Disk) (other : Location),
      (disk.makeDirectory location).fileAt? other = disk.fileAt? other := by
    intro disk other
    unfold Disk.makeDirectory
    split <;> rfl
  have hdirectories : ∀ other, (b.makeDirectory location).isDirectory other =
      (a.makeDirectory location).isDirectory other := fun other => by
    rw [hdirectory, hdirectory, h.tree.directories]
  have hhere : (b.makeDirectory location).here = (a.makeDirectory location).here := by
    rw [here_makeDirectory, here_makeDirectory, h.tree.here]
  refine ⟨⟨hhere, hdirectories, fun other => ?_⟩, ⟨hhere, fun {other} hother => ?_, hdirectories⟩⟩
  · rw [hfile, hfile, h.tree.files]
  · rw [hfile, hfile, h.same.files hother]

theorem makeDirectories (h : a.AlikeBut excepted b) (location : Location) (names : List String) :
    Both (AlikeBut excepted) (a.makeDirectories location names)
      (b.makeDirectories location names) := by
  induction names generalizing a b location with
  | nil => exact .ok h
  | cons name names ih =>
    rw [Disk.makeDirectories, Disk.makeDirectories, h.tree.enter_eq]
    refine (Both.refl (a.enter location name)).bind ?_
    rintro next _ rfl
    rw [h.tree.files]
    split
    · exact .error _
    · exact ih (h.makeDirectory next) next

/-- **A path lets the same file be made sure of on both disks.** -/
theorem ensure (h : a.AlikeBut excepted b) (path : String) :
    Both (AlikeBut excepted) (a.ensure path) (b.ensure path) := by
  refine (Both.refl (checkPath path)).bind fun _ => ?_
  rw [start_congr h.tree.here]
  refine (h.makeDirectories _ _).bind fun {made made'} hmade => ?_
  rw [hmade.tree.slot_eq]
  refine (Both.refl (made.slot path)).bind ?_
  rintro location _ rfl
  refine .ok ?_
  rw [hmade.tree.files]
  split
  · exact hmade
  · exact hmade.put location fun _ => rfl

/-- **A path lets the same file be written on both disks.** -/
theorem write (h : a.AlikeBut excepted b) (path : String) (content : ByteArray) :
    Both (AlikeBut excepted) (a.write path content) (b.write path content) := by
  rw [Disk.write, Disk.write, h.tree.slot_eq]
  refine (Both.refl (a.slot path)).bind ?_
  rintro location _ rfl
  exact .ok (h.put location fun _ => rfl)

/-- **An entry in a log keeps two disks alike.** -/
theorem append (h : a.AlikeBut excepted b) (path : String) (event : Event) :
    (a.append path event).AlikeBut excepted (b.append path event) := by
  unfold Disk.append
  rw [h.tree.slot_eq]
  cases a.slot path with
  | error e => exact h
  | ok location =>
    have hsome := h.tree.files location
    have hsame : ¬ excepted location → b.fileAt? location = a.fileAt? location := h.same.files
    cases hfile : a.fileAt? location with
    | none =>
      cases hfile' : b.fileAt? location with
      | none => simpa only [hfile, hfile'] using h
      | some file' => simp [hfile, hfile'] at hsome
    | some file =>
      cases hfile' : b.fileAt? location with
      | none => simp [hfile, hfile'] at hsome
      | some file' =>
        simp only [hfile, hfile']
        refine h.put location fun hlocation => ?_
        have hfiles := hsame hlocation
        rw [hfile, hfile', Option.some.injEq] at hfiles
        rw [hfiles]

/-- **A path that leads to no file excepted is read the same**, or fails for the same reason. -/
theorem read (h : a.AlikeBut excepted b) {path : String}
    (hpath : ∀ location, a.Leads path location → ¬ excepted location) :
    b.read path = a.read path := by
  have hwalk : b.walk (b.start path) (names path) = a.walk (a.start path) (names path) := by
    rw [walk, walk, start_congr h.tree.here, h.tree.enter_eq]
  cases hcheck : checkPath path with
  | error e => simp only [Disk.read, hcheck, bind, Except.bind]
  | ok checked =>
    cases hgoal : a.walk (a.start path) (names path) with
    | error e => simp only [Disk.read, hcheck, hwalk, hgoal, bind, Except.bind]
    | ok location => exact h.same.read ⟨hcheck, hgoal⟩ (hpath location ⟨hcheck, hgoal⟩)

end AlikeBut
end Disk
end CheatCode
