/-
# An image is a plain map of bytes

An image takes calls of six kinds in any order.  Each comes to one access, a read or a write of some
bytes at an address (`Accessor.call_eq`), and what an access does is told without a look at the row
of bytes or at words:

| | access inside the image | access that leaves it |
| --- | --- | --- |
| read | the number whose digits in base 256 are the bytes, at most eight of them | zero |
| write | byte `i` of the number goes to address `+ i`, and nothing else changes | nothing changes |
| events | none | one warning |

A byte is the one that the last write of the history put at its address, and the first one where
none did (`Image.byteAfter`).  One call keeps this up (`Image.byteAt?_use`), so it holds after any
calls (`Image.mapAfter_calls`), and the next call meets the map that they leave
(`Image.calls_servesAsMap`).
-/

import CheatCode.Memory.Call
import CheatCode.Memory.Probe
import CheatCode.Proofs.Memory.Image
import CheatCode.Proofs.Word
import Mathlib.Data.List.Induction

namespace CheatCode

namespace Access

/-- Whether an access reads or writes. -/
def direction : Access → Direction
  | .read .. => .read
  | .write .. => .write

/-- The address at which an access starts. -/
def address : Access → UInt64
  | .read address _ => address
  | .write address _ _ => address

/-- The number of bytes of an access. -/
def size : Access → UInt64
  | .read _ size => size
  | .write _ size _ => size

/-- The report of an access that does not lie inside the memory. -/
def warning (access : Access) : Event :=
  .outOfRange access.direction access.address access.size

end Access

namespace Accessor

/-- The access that a call comes to. -/
def Call.access : Call → Access
  | .read address size => .read address size
  | .readByte address => .read address 1
  | .readPair address => .read address 2
  | .write address size value => .write address size value
  | .writeByte address value => .write address 1 value.toUInt64
  | .writePair address value => .write address 2 value.toUInt64

/-- The answer to a call when its access gives a word. -/
def Call.answer (word : UInt64) : Call → Answer
  | .read .. => .word word
  | .readByte _ => .byte word.toUInt8
  | .readPair _ => .pair word.toUInt16
  | _ => .nothing

/-- An answer tells a number: all of it after a read of any size, its lowest 8 or 16 bits after a
read of one byte or two, and nothing after a write. -/
def Call.Tells : Call → Nat → Answer → Prop
  | .read .., number, answer => ∃ word, answer = .word word ∧ word.toNat = number
  | .readByte _, number, answer => ∃ byte, answer = .byte byte ∧ byte.toNat = number % 2 ^ 8
  | .readPair _, number, answer => ∃ pair, answer = .pair pair ∧ pair.toNat = number % 2 ^ 16
  | _, _, answer => answer = .nothing

/-- The answer with a word tells the number of the word. -/
theorem Call.tells_answer (c : Call) (word : UInt64) : c.Tells word.toNat (c.answer word) := by
  cases c with
  | read address size => exact ⟨word, rfl, rfl⟩
  | readByte address => exact ⟨_, rfl, UInt64.toNat_toUInt8 word⟩
  | readPair address => exact ⟨_, rfl, UInt64.toNat_toUInt16 word⟩
  | _ => rfl

section

variable {μ : Type} [Accessor μ]

/-- Makes an access: the word that is read, or zero after a write, and the memory after it. -/
def use (memory : μ) : Access → Traced (UInt64 × μ)
  | .read address size => read memory address size
  | .write address size value => do
    let memory ← write memory address size value
    return (0, memory)

/-- **A call is its access**, with the answer cut to what was asked for. -/
theorem call_eq (memory : μ) (c : Call) :
    call memory c = use memory c.access >>= fun (word, memory) => pure (c.answer word, memory) := by
  cases c <;> simp [call, use, Call.access, readByte, readPair, writeByte, writePair] <;>
    rfl

/-- What some calls make of a memory, the answers left aside. -/
def calls (memory : μ) (cs : List Call) : Traced μ :=
  Traced.fold (fun memory c => Prod.snd <$> call memory c) memory cs

theorem calls_append (memory : μ) (cs : List Call) (c : Call) :
    calls memory (cs ++ [c]) = calls memory cs >>= fun memory => Prod.snd <$> call memory c := by
  simp only [calls, Traced.fold, List.foldl_append, List.foldl_cons, List.foldl_nil]

/-- The first of some calls leaves a memory to the others. -/
theorem value_calls_cons (memory : μ) (c : Call) (cs : List Call) :
    (calls memory (c :: cs)).value = (calls (call memory c).value.2 cs).value := by
  rw [calls, Traced.fold_cons, Traced.value_bind, Traced.value_map, ← calls]

end

end Accessor

namespace Image

/-! ## One access -/

/-- The number whose digits in base 256 are some bytes of an image, the lowest first. -/
def number (image : Image) (address count : Nat) : Nat :=
  ∑ i ∈ Finset.range count, ((image.byteAt? (address + i)).getD 0).toNat * 256 ^ i

/-- The byte that an access puts at an address: a digit of its number, if it is a write inside the
image and the address is one of its own. -/
def put? (image : Image) (n : Nat) : Access → Option UInt8
  | .read .. => none
  | .write address size value =>
    if image.Covers address size ∧ address.toNat ≤ n ∧ n < address.toNat + size.toNat then
      some (UInt8.ofNat (value.toNat / 256 ^ (n - address.toNat)))
    else none

/-- A read inside the image looks at its first eight bytes. -/
theorem read_of_covers {image : Image} {address size : UInt64} (h : image.Covers address size) :
    Accessor.read image address size =
      pure (UInt64.ofNat (image.number address.toNat (min size.toNat 8)), image) := by
  obtain ⟨hbase, hend⟩ := id h
  simp only [Accessor.read, offset?_eq, if_pos h]
  congr 3
  have hlength : (image.bytes.extract (address.toNat - image.base.toNat)
      (address.toNat - image.base.toNat + min size.toNat 8)).toList.length = min size.toNat 8 := by
    rw [Array.length_toList, Array.size_extract]
    omega
  rw [Word.ofBytes_eq_sum, hlength, number]
  refine Finset.sum_congr rfl fun i hi => ?_
  have hlt := Finset.mem_range.1 hi
  have hbyte : image.byteAt? (address.toNat + i) =
      image.bytes[address.toNat - image.base.toNat + i]? := by
    rw [byteAt?, if_pos (by omega)]
    congr 1
    omega
  rw [hbyte, Array.getElem?_toList, Array.getElem?_extract, if_pos (by omega)]

theorem read_of_not_covers {image : Image} {address size : UInt64}
    (h : ¬ image.Covers address size) :
    Accessor.read image address size = do
      Traced.emit (.outOfRange .read address size)
      return (0, image) := by
  simp only [Accessor.read, offset?_eq, if_neg h]

/-- Bytes of an image make a number below that power of 256. -/
theorem number_lt (image : Image) (address count : Nat) :
    image.number address count < 256 ^ count := by
  induction count with
  | zero => exact Nat.one_pos
  | succ count ih =>
    have hbyte := ((image.byteAt? (address + count)).getD 0).toNat_lt
    have hstep : image.number address (count + 1) = image.number address count +
        ((image.byteAt? (address + count)).getD 0).toNat * 256 ^ count :=
      Finset.sum_range_succ _ _
    calc image.number address (count + 1)
        < 256 ^ count + 255 * 256 ^ count := by
          rw [hstep]
          exact Nat.add_lt_add_of_lt_of_le ih (Nat.mul_le_mul_right _ (by omega))
      _ = 256 ^ (count + 1) := by ring

/-- At most eight bytes make a word. -/
theorem toNat_ofNat_number (image : Image) (address size : Nat) :
    (UInt64.ofNat (image.number address (min size 8))).toNat =
      image.number address (min size 8) := by
  have hlt : image.number address (min size 8) < 256 ^ 8 :=
    Nat.lt_of_lt_of_le (image.number_lt _ _)
      (Nat.pow_le_pow_right (by omega) (Nat.min_le_right _ _))
  exact UInt64.toNat_ofNat_of_lt' hlt

/-! ## Offsets in words -/

/-- Where in the row an access starts, worked out in words: a difference or a sum that is no word
is a fault. -/
def wordOffset? (image : Image) (address size : UInt64) : Option UInt64 := do
  let offset ← Word.sub? address image.base
  let stop ← Word.add? offset size
  if stop.toNat ≤ image.bytes.size then some offset else none

/-- **Words are enough to tell where an access starts**, for a row that they can count. -/
theorem offset?_eq_wordOffset? {image : Image} (hsize : image.bytes.size < 2 ^ 64)
    (address size : UInt64) :
    image.offset? address size = (image.wordOffset? address size).map UInt64.toNat := by
  have hsub := Word.toNat_sub? address image.base
  simp only [offset?, wordOffset?, UInt64.le_iff_toNat_le]
  by_cases hbase : image.base.toNat ≤ address.toNat
  · rw [if_pos hbase] at hsub
    obtain ⟨offset, hoffset, hvalue⟩ := Option.map_eq_some_iff.1 hsub
    have hadd := Word.toNat_add? offset size
    simp only [if_pos hbase, hoffset, Option.bind_eq_bind, Option.bind_some, ← hvalue]
    by_cases hstop : offset.toNat + size.toNat < 2 ^ 64
    · rw [if_pos hstop] at hadd
      obtain ⟨stop, hsum, hend⟩ := Option.map_eq_some_iff.1 hadd
      simp only [hsum, Option.bind_some, hend]
      split <;> rfl
    · rw [if_neg hstop, Option.map_eq_none_iff] at hadd
      rw [hadd, if_neg (by omega)]
      rfl
  · rw [if_neg hbase, Option.map_eq_none_iff] at hsub
    rw [if_neg hbase, hsub]
    rfl

/-! ## One call -/

/-- What an access inside the image reads, and the image after it. -/
def served (image : Image) : Access → UInt64 × Image
  | .read address size =>
    (UInt64.ofNat (image.number address.toNat (min size.toNat 8)), image)
  | .write address size value =>
    (0, { image with
      bytes := store image.bytes (address.toNat - image.base.toNat) size.toNat value })

/-- **An access is served if it lies inside the image, and refused with a warning if not.** -/
theorem use_eq (image : Image) (access : Access) :
    Accessor.use image access =
      if image.Covers access.address access.size then pure (image.served access) else do
        Traced.emit access.warning
        return (0, image) := by
  cases access with
  | read address size =>
    show Accessor.read image address size = if image.Covers address size then _ else _
    by_cases h : image.Covers address size
    · rw [if_pos h, read_of_covers h]
      rfl
    · rw [if_neg h, read_of_not_covers h]
      rfl
  | write address size value =>
    show (Accessor.write image address size value >>= fun image => pure ((0 : UInt64), image)) =
      if image.Covers address size then _ else _
    by_cases h : image.Covers address size
    · rw [if_pos h, write_of_covers value h]
      rfl
    · rw [if_neg h, write_of_not_covers value h]
      rfl

/-- A read leaves the image as it is. -/
theorem value_use_read (image : Image) (address size : UInt64) :
    (Accessor.use image (.read address size)).value.2 = image := by
  rw [use_eq]
  split <;> rfl

/-- An access that leaves the image changes nothing. -/
theorem value_use_of_not_covers {image : Image} {access : Access}
    (h : ¬ image.Covers access.address access.size) :
    (Accessor.use image access).value = (0, image) := by
  rw [use_eq, if_neg h, Traced.value_bind, Traced.value_pure]

theorem base_use (image : Image) (access : Access) :
    (Accessor.use image access).value.2.base = image.base := by
  cases access with
  | read address size => rw [value_use_read]
  | write address size value => exact image.base_write address size value

theorem size_use (image : Image) (access : Access) :
    (Accessor.use image access).value.2.bytes.size = image.bytes.size := by
  cases access with
  | read address size => rw [value_use_read]
  | write address size value => exact image.size_write address size value

/-- **An access changes the bytes that it puts, and no other.** -/
theorem byteAt?_use (image : Image) {access : Access} (hsmall : access.size.toNat ≤ 2 ^ 29)
    (n : Nat) :
    (Accessor.use image access).value.2.byteAt? n =
      (image.byteAt? n).map fun byte => (image.put? n access).getD byte := by
  cases access with
  | read address size =>
    rw [value_use_read]
    exact Option.map_id'.symm
  | write address size value =>
    have hsize : size.toNat ≤ 2 ^ 29 := hsmall
    by_cases h : image.Covers address size
    · have hwrite := byteAt?_write value h n
      by_cases hn : address.toNat ≤ n ∧ n < address.toNat + size.toNat
      · obtain ⟨byte, hbyte⟩ := h.exists_byteAt? hn
        rw [if_pos hn, Word.byte_eq_ofNat (by omega)] at hwrite
        rw [hbyte, Option.map_some, put?, if_pos ⟨h, hn⟩]
        exact hwrite
      · rw [if_neg hn] at hwrite
        rw [put?, if_neg fun hput => hn hput.2]
        exact hwrite.trans Option.map_id'.symm
    · have hsame : (Accessor.use image (.write address size value)).value = (0, image) :=
        value_use_of_not_covers h
      rw [hsame, put?, if_neg fun hput => h hput.1]
      exact Option.map_id'.symm

/-- A call makes its access. -/
theorem value_call (image : Image) (c : Accessor.Call) :
    (Accessor.call image c).value =
      (c.answer (Accessor.use image c.access).value.1, (Accessor.use image c.access).value.2) := by
  rw [Accessor.call_eq]
  rfl

/-- A call does not move the image and keeps its length, so the same accesses lie inside it. -/
theorem covers_call_iff (image : Image) (c : Accessor.Call) (address size : UInt64) :
    (Accessor.call image c).value.2.Covers address size ↔ image.Covers address size := by
  rw [Covers, Covers, value_call, base_use, size_use]

/-- A call inside the image reports nothing, and one that leaves it gives one warning. -/
theorem events_call (image : Image) (c : Accessor.Call) :
    (Accessor.call image c).events =
      if image.Covers c.access.address c.access.size then [] else [c.access.warning] := by
  rw [Accessor.call_eq, Traced.events_bind, Traced.events_pure, List.append_nil, use_eq]
  split <;> rfl

/-- **A call tells the number of the bytes that it covers**, and zero if it leaves the image. -/
theorem tells_call (image : Image) (c : Accessor.Call) :
    c.Tells
      (if image.Covers c.access.address c.access.size then
        image.number c.access.address.toNat (min c.access.size.toNat 8) else 0)
      (Accessor.call image c).value.1 := by
  have htells := c.tells_answer (Accessor.use image c.access).value.1
  rw [value_call]
  by_cases h : image.Covers c.access.address c.access.size
  · rw [if_pos h]
    rw [use_eq, if_pos h] at htells ⊢
    cases c with
    | read address size =>
      rwa [← toNat_ofNat_number]
    | readByte address =>
      rwa [← toNat_ofNat_number]
    | readPair address =>
      rwa [← toNat_ofNat_number]
    | _ => rfl
  · rw [if_neg h]
    rwa [value_use_of_not_covers h] at htells ⊢

/-! ## Calls one after the other -/

/-- The byte that the last write of a history put at an address, if one did. -/
def lastPut? (image : Image) (history : List Access) (n : Nat) : Option UInt8 :=
  history.reverse.findSome? (image.put? n)

/-- The byte at an address after a history: the one put there last, or else the first one. -/
def byteAfter (image : Image) (history : List Access) (n : Nat) : UInt8 :=
  (image.lastPut? history n).getD ((image.byteAt? n).getD 0)

/-- An image has become the map of bytes that another one is after a history. -/
structure MapAfter (first : Image) (history : List Access) (now : Image) : Prop where
  base : now.base = first.base
  size : now.bytes.size = first.bytes.size
  byte : ∀ n, now.byteAt? n =
    (first.byteAt? n).map fun byte => (first.lastPut? history n).getD byte

/-- An image that an earlier one has become by a history takes a call as a map of bytes does. -/
structure ServesAsMap (first : Image) (history : List Access) (now : Image) (c : Accessor.Call) :
    Prop where
  /-- The access is served exactly if it lies inside the first image, by numbers without bound. -/
  offset : now.offset? c.access.address c.access.size =
    if first.base.toNat ≤ c.access.address.toNat ∧
        c.access.address.toNat + c.access.size.toNat ≤ first.base.toNat + first.bytes.size then
      some (c.access.address.toNat - first.base.toNat)
    else none
  /-- Words come to the same, so no sum or difference that wraps around decides. -/
  words : first.bytes.size < 2 ^ 64 →
    (now.wordOffset? c.access.address c.access.size).map UInt64.toNat =
      now.offset? c.access.address c.access.size
  /-- An access that is served has all its bytes in the row. -/
  inside : ∀ start, now.offset? c.access.address c.access.size = some start →
    start + c.access.size.toNat ≤ now.bytes.size
  /-- The answer tells the bytes that the history has put there, at most eight, or zero. -/
  answer : c.Tells
    (if first.Covers c.access.address c.access.size then
      ∑ i ∈ Finset.range (min c.access.size.toNat 8),
        (first.byteAfter history (c.access.address.toNat + i)).toNat * 256 ^ i
    else 0)
    (Accessor.call now c).value.1
  /-- A write puts its bytes, the lowest first, and changes no other. -/
  put : ∀ n, (Accessor.call now c).value.2.byteAt? n =
    (now.byteAt? n).map fun byte => (first.put? n c.access).getD byte
  /-- A read changes nothing, and nor does an access that is refused. -/
  kept : c.access.direction = .read ∨ ¬ first.Covers c.access.address c.access.size →
    (Accessor.call now c).value.2 = now
  /-- An access that is refused gives one warning, and one that is served none. -/
  events : (Accessor.call now c).events =
    if first.Covers c.access.address c.access.size then [] else [c.access.warning]
  level : c.access.warning.level = .warn

theorem lastPut?_append (image : Image) (history : List Access) (access : Access) (n : Nat) :
    image.lastPut? (history ++ [access]) n =
      (image.put? n access).or (image.lastPut? history n) := by
  rw [lastPut?, List.reverse_append, List.reverse_singleton, List.singleton_append,
    List.findSome?_cons, ← lastPut?]
  cases image.put? n access <;> rfl

variable {first now : Image} {history : List Access}

/-- Whether an access lies inside an image is decided by its base and its length. -/
theorem MapAfter.covers_iff (h : first.MapAfter history now) (address size : UInt64) :
    now.Covers address size ↔ first.Covers address size := by
  rw [Covers, Covers, h.base, h.size]

theorem MapAfter.put?_eq (h : first.MapAfter history now) (n : Nat) (access : Access) :
    now.put? n access = first.put? n access := by
  cases access with
  | read address size => rfl
  | write address size value => simp only [put?, h.covers_iff]

/-- The bytes that an access inside the image covers are the ones put there last. -/
theorem MapAfter.number_eq (h : first.MapAfter history now) {address size : UInt64}
    (hcovers : first.Covers address size) {count : Nat} (hcount : count ≤ size.toNat) :
    now.number address.toNat count =
      ∑ i ∈ Finset.range count, (first.byteAfter history (address.toNat + i)).toNat * 256 ^ i := by
  refine Finset.sum_congr rfl fun i hi => ?_
  have hlt := Finset.mem_range.1 hi
  obtain ⟨byte, hbyte⟩ := hcovers.exists_byteAt? (n := address.toNat + i) (by omega)
  rw [h.byte, byteAfter, hbyte, Option.map_some, Option.getD_some, Option.getD_some]

/-- **One more call keeps the image a map of bytes.** -/
theorem MapAfter.call (h : first.MapAfter history now) {c : Accessor.Call}
    (hsmall : c.access.size.toNat ≤ 2 ^ 29) :
    first.MapAfter (history ++ [c.access]) (Accessor.call now c).value.2 := by
  rw [value_call]
  refine ⟨(base_use _ _).trans h.base, (size_use _ _).trans h.size, fun n => ?_⟩
  rw [byteAt?_use now hsmall, h.byte, Option.map_map, h.put?_eq]
  congr 1
  funext byte
  rw [Function.comp_apply, lastPut?_append]
  cases first.put? n c.access <;> rfl

/-- **After any calls an image is the plain map of bytes that their writes make.** -/
theorem mapAfter_calls (first : Image) {cs : List Accessor.Call}
    (hsmall : ∀ c ∈ cs, c.access.size.toNat ≤ 2 ^ 29) :
    first.MapAfter (cs.map Accessor.Call.access) (Accessor.calls first cs).value := by
  induction cs using List.reverseRecOn with
  | nil => exact ⟨rfl, rfl, fun n => Option.map_id'.symm⟩
  | append_singleton cs c ih =>
    have hbefore := ih fun d hd => hsmall d (List.mem_append_left _ hd)
    have hlast := hsmall c (List.mem_append_right _ (List.mem_singleton_self c))
    rw [Accessor.calls_append, Traced.value_bind, Traced.value_map, List.map_append,
      List.map_singleton]
    exact hbefore.call hlast

/-- The next call meets the map that a history has left. -/
theorem MapAfter.serves (h : first.MapAfter history now) {c : Accessor.Call}
    (hsmall : c.access.size.toNat ≤ 2 ^ 29) : first.ServesAsMap history now c where
  offset := by
    rw [offset?_eq, h.base, if_congr (h.covers_iff _ _) rfl rfl]
    rfl
  words hsize := (offset?_eq_wordOffset? (h.size ▸ hsize) _ _).symm
  inside start hstart := by
    rw [offset?_eq] at hstart
    split at hstart
    · rename_i hcovers
      obtain ⟨hbase, hend⟩ := hcovers
      obtain rfl := Option.some.inj hstart
      omega
    · cases hstart
  answer := by
    have htells := now.tells_call c
    by_cases hcovers : first.Covers c.access.address c.access.size
    · rw [if_pos ((h.covers_iff _ _).2 hcovers),
        h.number_eq hcovers (Nat.min_le_left _ _)] at htells
      rwa [if_pos hcovers]
    · rw [if_neg (mt (h.covers_iff _ _).1 hcovers)] at htells
      rwa [if_neg hcovers]
  put n := by
    rw [value_call, byteAt?_use now hsmall, h.put?_eq]
  kept hkept := by
    rw [value_call]
    rcases hkept with hread | hrefused
    · cases haccess : c.access with
      | read address size => exact value_use_read now address size
      | write address size value =>
        rw [haccess] at hread
        cases hread
    · rw [value_use_of_not_covers (mt (h.covers_iff _ _).1 hrefused)]
  events := by
    rw [events_call, if_congr (h.covers_iff _ _) rfl rfl]
  level := rfl

/-- The reports of some calls are the warnings of those that leave the image. -/
theorem events_calls (first : Image) {cs : List Accessor.Call}
    (hsmall : ∀ c ∈ cs, c.access.size.toNat ≤ 2 ^ 29) :
    (Accessor.calls first cs).events =
      ((cs.map Accessor.Call.access).filter fun access =>
        ¬ first.Covers access.address access.size).map Access.warning := by
  induction cs using List.reverseRecOn with
  | nil => rfl
  | append_singleton cs c ih =>
    have hbefore : ∀ d ∈ cs, d.access.size.toNat ≤ 2 ^ 29 :=
      fun d hd => hsmall d (List.mem_append_left _ hd)
    have hmap := mapAfter_calls first hbefore
    rw [Accessor.calls_append, Traced.events_bind, Traced.events_map, events_call, ih hbefore,
      List.map_append, List.filter_append, List.map_append]
    congr 1
    by_cases hcovers : first.Covers c.access.address c.access.size
    · rw [if_pos ((hmap.covers_iff _ _).2 hcovers)]
      simp [hcovers]
    · rw [if_neg (mt (hmap.covers_iff _ _).1 hcovers)]
      simp [hcovers]

/-- **An image is a plain map of bytes, whatever calls it takes.**  After any calls of at most
`2 ^ 29` bytes each it has its base and its length and holds the bytes put there last (`MapAfter`),
and any next call is served or refused, answered and reported as the map has it (`ServesAsMap`) and
leaves the map with its own access in it.  All that the calls report is one warning for each that
left the image. -/
theorem calls_servesAsMap (first : Image) (cs : List Accessor.Call) (c : Accessor.Call)
    (hsmall : ∀ d ∈ c :: cs, d.access.size.toNat ≤ 2 ^ 29) :
    let history := cs.map Accessor.Call.access
    let now := (Accessor.calls first cs).value
    first.MapAfter history now ∧ first.ServesAsMap history now c ∧
      first.MapAfter (history ++ [c.access]) (Accessor.call now c).value.2 ∧
      (Accessor.calls first cs).events =
        (history.filter fun access =>
          ¬ first.Covers access.address access.size).map Access.warning := by
  intro history now
  obtain ⟨hlast, hbefore⟩ := List.forall_mem_cons.1 hsmall
  have hmap : first.MapAfter history now := mapAfter_calls first hbefore
  exact ⟨hmap, hmap.serves hlast, hmap.call hlast, events_calls first hbefore⟩

/-- Ten bytes at the very end of the addresses. -/
def lastTen : Image := ⟨0xFFFFFFFFFFFFFFF6, Array.replicate 10 1⟩

/-- A write of all ten bytes, one of the last byte, and one that leaves the image by a byte. -/
def lastTenCalls : List Accessor.Call := [
  .write 0xFFFFFFFFFFFFFFF6 10 0xFFFFFFFFFFFFFFFF,
  .writeByte 0xFFFFFFFFFFFFFFFF 7,
  .writePair 0xFFFFFFFFFFFFFFFF 1]

/-- The ninth byte is a zero of the first write and the tenth is of the second, the third being
refused with the only warning. -/
theorem lastTen_readPair :
    let now := (Accessor.calls lastTen lastTenCalls).value
    (∀ d ∈ Accessor.Call.readPair 0xFFFFFFFFFFFFFFFE :: lastTenCalls,
      d.access.size.toNat ≤ 2 ^ 29) ∧
    (Accessor.call now (.readPair 0xFFFFFFFFFFFFFFFE)).value.1 = .pair 0x0700 ∧
    (Accessor.calls lastTen lastTenCalls).events = [.outOfRange .write 0xFFFFFFFFFFFFFFFF 2] := by
  intro now
  have hsmall : ∀ d ∈ Accessor.Call.readPair 0xFFFFFFFFFFFFFFFE :: lastTenCalls,
      d.access.size.toNat ≤ 2 ^ 29 := by decide
  obtain ⟨-, hserves, -, hevents⟩ := calls_servesAsMap lastTen lastTenCalls _ hsmall
  obtain ⟨pair, hanswer, hpair⟩ := hserves.answer
  refine ⟨hsmall, hanswer.trans (congrArg _ (UInt16.toNat_inj.1 (hpair.trans ?_))),
    hevents.trans ?_⟩
  · decide +kernel
  · decide

end Image
end CheatCode
