/-
# What an engine leaves in an image

Codes lie over the bytes of an image.  After an execution the byte for an address is the value of
the last active code for it, and what it was before where no code is for it
(`Engine.byteAt?_execute`): a later code wins over an earlier one for the same address, and codes
beside the image do nothing.  A second execution finds every byte as it would leave it
(`Engine.execute_execute`), so driving an engine leaves what one execution leaves, for any number
of cycles from one on and whatever the pauses between them (`Engine.value_drive_of_pos`).
-/

import CheatCode.Engine.Drive
import CheatCode.Proofs.Memory.Image
import Mathlib.Logic.Function.Iterate

namespace CheatCode

namespace Poke

/-- The value of the last of some pokes for an address, if one is for it. -/
def lastValue? (codes : List Poke) (address : Nat) : Option UInt8 :=
  (codes.filter fun code => code.address.toNat = address).getLast?.map Poke.value

@[simp] theorem lastValue?_nil (address : Nat) : lastValue? [] address = none := rfl

/-- The first poke counts only where none of the others is for its address. -/
theorem lastValue?_cons (code : Poke) (codes : List Poke) (address : Nat) :
    lastValue? (code :: codes) address =
      (lastValue? codes address).or
        (if code.address.toNat = address then some code.value else none) := by
  by_cases h : code.address.toNat = address
  · rw [lastValue?, List.filter_cons_of_pos (by simpa using h), List.getLast?_cons, if_pos h,
      lastValue?]
    cases (codes.filter fun code => code.address.toNat = address).getLast? <;> rfl
  · rw [lastValue?, List.filter_cons_of_neg (by simpa using h), if_neg h, Option.or_none,
      lastValue?]

/-- The first pokes count only where none of those after them is for the address. -/
theorem lastValue?_append (codes more : List Poke) (address : Nat) :
    lastValue? (codes ++ more) address =
      (lastValue? more address).or (lastValue? codes address) := by
  induction codes with
  | nil => rw [List.nil_append, lastValue?_nil, Option.or_none]
  | cons code codes ih =>
    rw [List.cons_append, lastValue?_cons, ih, lastValue?_cons, Option.or_assoc]

end Poke

namespace Engine

section

variable {μ : Type} [Accessor μ]

/-- What the writes of some pokes, one after the other, make of a memory. -/
def poked (memory : μ) (codes : List Poke) : μ :=
  codes.foldl (fun memory code =>
    (Accessor.write memory code.address 1 code.value.toUInt64).value) memory

/-- An execution writes the active codes in their order. -/
theorem value_execute (engine : Engine) (memory : μ) :
    (engine.execute memory).value = poked memory engine.activeCodes := by
  unfold execute activeCodes
  cases engine.codes with
  | none => rfl
  | some codes =>
    simp only [Traced.value_bind, Traced.value_pure, Traced.value_fold, Option.getD_some, poked]

/-- A cycle leaves what its execution leaves. -/
theorem value_cycle (engine : Engine) (period : Nat) (memory : μ) (index : Nat) :
    (engine.cycle period memory index).value = (engine.execute memory).value := by
  by_cases h : index = 0 <;> simp [cycle, h]

/-- Cycles one after the other leave what as many executions leave. -/
theorem value_fold_cycle (engine : Engine) (memory : μ) (count period : Nat) :
    (count.fold (fun index _ sofar =>
      sofar >>= fun memory => engine.cycle period memory index) (pure memory)).value =
      (fun memory => (engine.execute memory).value)^[count] memory := by
  induction count with
  | zero => simp
  | succ count ih =>
    rw [Nat.fold_succ, Traced.value_bind, value_cycle, ih, Function.iterate_succ_apply']

/-- Driving an engine executes it as often as it is told. -/
theorem value_drive (engine : Engine) (memory : μ) (count period : Nat) :
    (engine.drive memory count period).value =
      (fun memory => (engine.execute memory).value)^[count] memory := by
  simp only [drive, Traced.value_bind, Traced.value_pure, value_fold_cycle]

end

/-- The last of the pokes for an address decides its byte. -/
theorem byteAt?_poked (image : Image) (codes : List Poke) (n : Nat) :
    (poked image codes).byteAt? n =
      (image.byteAt? n).map fun byte => (Poke.lastValue? codes n).getD byte := by
  induction codes generalizing image with
  | nil => simp [poked]
  | cons code codes ih =>
    rw [poked, List.foldl_cons, ← poked, ih, Image.byteAt?_write_one, Option.map_map]
    congr 1
    funext byte
    rw [Function.comp_apply, Poke.lastValue?_cons]
    by_cases h : code.address.toNat = n
    · rw [if_pos h, if_pos h]
      cases Poke.lastValue? codes n <;> rfl
    · rw [if_neg h, if_neg h, Option.or_none]

theorem poked_append {μ : Type} [Accessor μ] (memory : μ) (codes more : List Poke) :
    poked memory (codes ++ more) = poked (poked memory codes) more :=
  List.foldl_append

/-- Pokes do not move an image. -/
theorem base_poked (image : Image) (codes : List Poke) :
    (poked image codes).base = image.base := by
  induction codes generalizing image with
  | nil => rfl
  | cons code codes ih => rw [poked, List.foldl_cons, ← poked, ih, Image.base_write]

/-- Pokes do not make an image longer or shorter. -/
theorem size_poked (image : Image) (codes : List Poke) :
    (poked image codes).bytes.size = image.bytes.size := by
  induction codes generalizing image with
  | nil => rfl
  | cons code codes ih => rw [poked, List.foldl_cons, ← poked, ih, Image.size_write]

/-- Pokes that have just been put into an image find every byte as they would leave it. -/
theorem poked_poked (image : Image) (codes : List Poke) :
    poked (poked image codes) codes = poked image codes := by
  refine Image.ext_byteAt? (base_poked _ _) fun n => ?_
  rw [byteAt?_poked, byteAt?_poked, Option.map_map]
  congr 1
  funext byte
  cases h : Poke.lastValue? codes n <;> simp

/-- **After an execution an image holds the last active code for each address**, and what it held
before where no code is for it. -/
theorem byteAt?_execute (engine : Engine) (image : Image) (n : Nat) :
    (engine.execute image).value.byteAt? n =
      (image.byteAt? n).map fun byte => (Poke.lastValue? engine.activeCodes n).getD byte := by
  rw [value_execute, byteAt?_poked]

theorem base_execute (engine : Engine) (image : Image) :
    (engine.execute image).value.base = image.base := by
  rw [value_execute, base_poked]

theorem size_execute (engine : Engine) (image : Image) :
    (engine.execute image).value.bytes.size = image.bytes.size := by
  rw [value_execute, size_poked]

/-- **An execution with nothing in between changes no byte.** -/
theorem execute_execute (engine : Engine) (image : Image) :
    (engine.execute (engine.execute image).value).value = (engine.execute image).value := by
  rw [value_execute, value_execute, poked_poked]

/-- **Any number of cycles from one on leaves what one execution leaves.** -/
theorem value_drive_of_pos (engine : Engine) (image : Image) {count : Nat} (h : 0 < count)
    (period : Nat) :
    (engine.drive image count period).value = (engine.execute image).value := by
  obtain ⟨count, rfl⟩ := Nat.exists_eq_add_one.2 h
  rw [value_drive, Function.iterate_succ_apply]
  exact Function.iterate_fixed (engine.execute_execute image) count

end Engine
end CheatCode
