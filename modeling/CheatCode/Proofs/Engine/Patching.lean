/-
# Written codes do what the patches ask for

Patches reach an image by two ways: each as one write of all its bytes (`Patch.write`), or as codes
that an engine executes, a byte each.  Both put the same bytes at the same addresses as long as the
addresses of a patch do not wrap around (`Patch.poked_pokes`), patch after patch
(`Patch.poked_flatMap`).  A code text says of each patch just these codes, if six digits have room
for all the addresses (`CodeText.pokes_of_encode`), and to execute the codes again adds nothing
(`Engine.value_calls_execute`).  So the code text of some patches does what the patches ask
for (`Engine.calls_encode_execute`).
-/

import CheatCode.Proofs.CodeText.RoundTrip
import CheatCode.Proofs.Engine.Calls
import CheatCode.Proofs.Memory.ByteMap

namespace CheatCode

namespace Patch

/-- The write that puts all of a patch into a memory. -/
def write (p : Patch) : Accessor.Call := .write p.address p.width p.value

/-- A patch lies wholly inside an image, and its addresses have room in six digits. -/
structure Fits (image : Image) (p : Patch) : Prop where
  covers : image.Covers p.address p.width
  room : p.address.toNat + p.width.toNat ≤ 2 ^ 24

instance (image : Image) (p : Patch) : Decidable (p.Fits image) :=
  decidable_of_iff (image.Covers p.address p.width ∧ p.address.toNat + p.width.toNat ≤ 2 ^ 24)
    ⟨fun h => ⟨h.1, h.2⟩, fun h => ⟨h.covers, h.room⟩⟩

/-- The pokes of a patch are for the addresses that it covers. -/
theorem address_of_mem_pokes {p : Patch} (hroom : p.address.toNat + p.width.toNat ≤ 2 ^ 64)
    {code : Poke} (h : code ∈ p.pokes) :
    code.address.toNat < p.address.toNat + p.width.toNat := by
  obtain ⟨i, hi, rfl⟩ := List.mem_map.1 h
  have hlt := List.mem_range.1 hi
  rw [Word.toNat_add_ofNat (by omega)]
  omega

/-- **The pokes of a patch hold its bytes**, one for each address that it covers. -/
theorem lastValue?_pokes {p : Patch} (hroom : p.address.toNat + p.width.toNat ≤ 2 ^ 64) (n : Nat) :
    Poke.lastValue? p.pokes n =
      if p.address.toNat ≤ n ∧ n < p.address.toNat + p.width.toNat then
        some (Word.byte p.value (n - p.address.toNat))
      else none := by
  unfold pokes
  -- from the highest byte: it is the last poke, and no other one is for its address
  generalize p.width.toNat = count at hroom
  induction count with
  | zero =>
    rw [if_neg (by omega)]
    rfl
  | succ count ih =>
    have haddress : (p.address + UInt64.ofNat count).toNat = p.address.toNat + count :=
      Word.toNat_add_ofNat (by omega)
    rw [List.range_succ, List.map_append, List.map_singleton, Poke.lastValue?_append,
      ih (by omega), Poke.lastValue?_cons, Poke.lastValue?_nil, Option.none_or, haddress]
    by_cases hlast : p.address.toNat + count = n
    · subst hlast
      rw [if_pos rfl, Option.some_or, if_pos (by omega), Nat.add_sub_cancel_left]
    · rw [if_neg hlast, Option.none_or]
      exact if_congr (by omega) rfl rfl

/-- **A patch is the same by its pokes as by one write**, as long as it lies inside the image and
its addresses do not wrap around. -/
theorem poked_pokes {image : Image} {p : Patch} (hcovers : image.Covers p.address p.width)
    (hroom : p.address.toNat + p.width.toNat ≤ 2 ^ 64) :
    Engine.poked image p.pokes = (Accessor.call image p.write).value.2 := by
  have hwrite : (Accessor.call image p.write).value.2 =
      (Accessor.write image p.address p.width p.value).value := rfl
  rw [hwrite]
  refine Image.ext_byteAt? ?_ fun n => ?_
  · rw [Engine.base_poked, Image.base_write]
  · rw [Engine.byteAt?_poked, lastValue?_pokes hroom, Image.byteAt?_write _ hcovers]
    by_cases hn : p.address.toNat ≤ n ∧ n < p.address.toNat + p.width.toNat
    · -- the pokes replace bytes, so there has to be one
      obtain ⟨byte, hbyte⟩ := hcovers.exists_byteAt? hn
      rw [if_pos hn, if_pos hn, hbyte, Option.map_some, Option.getD_some]
    · rw [if_neg hn, if_neg hn]
      exact Option.map_id'

/-- **Patches are the same by their pokes as by one write each**, in their order. -/
theorem poked_flatMap {image : Image} {patches : List Patch}
    (h : ∀ p ∈ patches, p.Fits image) :
    Engine.poked image (patches.flatMap pokes) =
      (Accessor.calls image (patches.map write)).value := by
  induction patches generalizing image with
  | nil => rfl
  | cons p patches ih =>
    obtain ⟨hp, hpatches⟩ := List.forall_mem_cons.1 h
    have hroom := hp.room
    have hrest : ∀ q ∈ patches, q.Fits (Accessor.call image p.write).value.2 := fun q hq =>
      ⟨(image.covers_call_iff p.write _ _).2 (hpatches q hq).covers, (hpatches q hq).room⟩
    rw [List.flatMap_cons, Engine.poked_append, poked_pokes hp.covers (by omega), ih hrest,
      List.map_cons, Accessor.value_calls_cons]

/-- Patches have a code text if one of them has a byte. -/
theorem exists_encode {patches : List Patch} (h : ∃ p ∈ patches, p.width ≠ 0) :
    ∃ text, encode patches = .ok text := by
  obtain ⟨p, hmem, hwidth⟩ := h
  have hne : p.width.toNat ≠ 0 := fun hzero => hwidth (UInt64.toNat_inj.1 hzero)
  have hpoke : p.pokes ≠ [] := fun hnil => hne (List.range_eq_nil.1 (List.map_eq_nil_iff.1 hnil))
  cases hcodes : patches.flatMap pokes with
  | nil => exact absurd (List.flatMap_eq_nil_iff.1 hcodes p hmem) hpoke
  | cons code codes => exact ⟨_, by rw [encode, hcodes]⟩

end Patch

/-- **The text of patches that six digits have room for says their pokes**, all of them. -/
theorem CodeText.pokes_of_encode {patches : List Patch} {text : String}
    (h : Patch.encode patches = .ok text)
    (hroom : ∀ p ∈ patches, p.address.toNat + p.width.toNat ≤ 2 ^ 24) :
    pokes text = patches.flatMap Patch.pokes := by
  rw [pokes_of_lines (lines_of_encode h)]
  refine List.filter_eq_self.2 fun code hcode => decide_eq_true ?_
  obtain ⟨p, hp, hmem⟩ := List.mem_flatMap.1 hcode
  have hend := hroom p hp
  have hlt := Patch.address_of_mem_pokes (by omega) hmem
  omega

namespace Engine

/-- **Executions one after the other leave what the first one leaves.** -/
theorem value_calls_execute (engine : Engine) (image : Image) {count : Nat} (h : 0 < count) :
    (engine.calls image (List.replicate count .execute)).value =
      (engine, poked image engine.activeCodes) := by
  obtain ⟨count, rfl⟩ := Nat.exists_eq_add_one.2 h
  induction count generalizing image with
  | zero =>
    rw [List.replicate_one, value_calls_cons, value_call_execute]
    rfl
  | succ count ih =>
    -- the others find the pokes of the first one in place
    have hrest := ih (poked image engine.activeCodes) (Nat.succ_pos count)
    rw [poked_poked] at hrest
    rw [List.replicate_succ, value_calls_cons, value_call_execute]
    exact hrest

/-- An engine that is started and then executed leaves the pokes of its text. -/
theorem memory_calls_start_execute (engine : Engine) (image : Image) (text : String)
    (encrypted : Bool) {count : Nat} (h : 0 < count) :
    (engine.calls image (.start text encrypted :: List.replicate count .execute)).value.2 =
      poked image (CodeText.pokes text) := by
  have hengine := engine_call engine image (.start text encrypted)
  have himage := memory_call engine image (.start text encrypted)
  rw [value_calls_cons, hengine, himage, value_calls_execute _ _ h]
  rfl

/-- **A code text does what the patches ask for.**  An engine in any state writes the text of
patches that lie inside an image and below `2 ^ 24`, one of them with a byte at least.  Started with
the text and executed any number of times from one on, it leaves the image that the patches make
when each is one write, in their order.  Whether either side is said to be encrypted makes no
difference, and nor does it that patches lie over one another. -/
theorem calls_encode_execute (engine : Engine) (image : Image) (patches : List Patch)
    (sealed opened : Bool) (count : Nat) (hbyte : ∃ p ∈ patches, p.width ≠ 0)
    (hfits : ∀ p ∈ patches, p.Fits image) (hcount : 0 < count) :
    ∃ text, (engine.call image (.encode patches sealed)).value = ((engine, .text text), image) ∧
      (engine.calls image
        (.encode patches sealed :: .start text opened :: List.replicate count .execute)).value.2 =
        (Accessor.calls image (patches.map Patch.write)).value := by
  obtain ⟨text, htext⟩ := Patch.exists_encode hbyte
  have hencode : (engine.call image (.encode patches sealed)).value =
      ((engine, .text text), image) := by
    simp only [call, encode_eq, htext, Traced.value_pure]
  have hpokes := CodeText.pokes_of_encode htext fun p hp => (hfits p hp).room
  refine ⟨text, hencode, ?_⟩
  rw [value_calls_cons, hencode]
  calc (engine.calls image (.start text opened :: List.replicate count .execute)).value.2
      = poked image (patches.flatMap Patch.pokes) := by
        rw [memory_calls_start_execute engine image text opened hcount, hpokes]
    _ = (Accessor.calls image (patches.map Patch.write)).value := Patch.poked_flatMap hfits

/-- Twelve bytes of work memory. -/
def workMemory : Image := ⟨0x7E0000, Array.replicate 12 0x55⟩

/-- A patch wider than a word, one that lies over it, and one without a byte just past the end. -/
def overlapping : List Patch := [
  ⟨0x7E0001, 10, 0xFFFFFFFFFFFFFFFF⟩, ⟨0x7E0008, 2, 0x1234⟩, ⟨0x7E000C, 0, 0x99⟩]

/-- The later patch wins after any number of executions, here three, and the zeros beyond the word
are written. -/
theorem overlapping_executed :
    (∃ p ∈ overlapping, p.width ≠ 0) ∧ (∀ p ∈ overlapping, p.Fits workMemory) ∧
      ∃ text, (calls { format := .standard } workMemory
        (.encode overlapping true :: .start text false :: List.replicate 3 .execute)).value.2 =
          ⟨0x7E0000, #[0x55, 0xFF, 0xFF, 0xFF, 0xFF, 0xFF, 0xFF, 0xFF, 0x34, 0x12, 0, 0x55]⟩ := by
  have hbyte : ∃ p ∈ overlapping, p.width ≠ 0 := by decide
  have hfits : ∀ p ∈ overlapping, p.Fits workMemory := by decide
  obtain ⟨text, -, himage⟩ :=
    calls_encode_execute { format := .standard } workMemory overlapping true false 3 hbyte hfits
      (by decide)
  exact ⟨hbyte, hfits, text, himage.trans (by decide +kernel)⟩

end Engine
end CheatCode
