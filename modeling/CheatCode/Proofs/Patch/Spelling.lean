/-
# Which texts spell a patch

A text with exactly two colons has three fields (`Patch.HasFields`), and spells a patch if its
fields spell the patch's numbers (`Patch.Spells`).

| the text | is read as |
| --- | --- |
| spells a patch | the patch |
| has more colons than two, or fewer | the fault of its shape |
| has two, but some field is no numeral of 64 bits | the fault of the leftmost such field |

These are all cases, and they exclude one another (`Patch.read_classifies`).
-/

import CheatCode.Patch.Spelling
import CheatCode.Proofs.Numeral.Spelled
import CheatCode.Proofs.Text.Lines

namespace CheatCode
namespace Patch

/-- A text has three fields: a colon stands between any two of them, and none in one. -/
structure HasFields (cs address width value : List Char) : Prop where
  joined : cs = address ++ ':' :: (width ++ ':' :: value)
  address_free : ':' ∉ address
  width_free : ':' ∉ width
  value_free : ':' ∉ value

theorem hasFields_iff {cs address width value : List Char} :
    HasFields cs address width value ↔ Text.fields ':' cs = [address, width, value] := by
  constructor
  · rintro ⟨rfl, haddress, hwidth, hvalue⟩
    rw [Text.fields_append_cons _ haddress, Text.fields_append_cons _ hwidth,
      Text.fields_of_not_mem hvalue]
  · intro h
    have hfree : ∀ field ∈ [address, width, value], ':' ∉ field := fun field hfield =>
      Text.not_mem_of_mem_fields (h ▸ hfield)
    refine ⟨?_, hfree _ (by simp), hfree _ (by simp), hfree _ (by simp)⟩
    rw [← Text.intercalate_fields ':' cs, h, List.intercalate_cons_cons,
      List.intercalate_cons_cons, List.intercalate_singleton, List.append_assoc, List.append_assoc,
      List.singleton_append, List.singleton_append]

/-- A text has three fields exactly if it has two colons. -/
theorem exists_hasFields_iff {cs : List Char} :
    (∃ address width value, HasFields cs address width value) ↔ cs.count ':' = 2 := by
  simp only [hasFields_iff]
  rw [← Nat.add_right_cancel_iff (n := 1), ← Text.length_fields, List.length_eq_three]

/-- A text spells a patch: its fields spell the address and the value in base sixteen and the width
in base ten. -/
def Spells (cs : List Char) (p : Patch) : Prop :=
  ∃ address width value, HasFields cs address width value ∧
    Numeral.SpellsHex address p.address.toNat ∧ Numeral.Spells 10 width p.width.toNat ∧
    Numeral.SpellsHex value p.value.toNat

/-- A field is the leftmost one of a text that is no numeral of 64 bits, for a fault. -/
inductive LeftmostBad (cs : List Char) : List Char → Numeral.Fault → Prop
  | address {address width value : List Char} {fault : Numeral.Fault}
      (h : HasFields cs address width value)
      (hbad : ¬ ∃ n : UInt64, Numeral.SpellsHex address n.toNat)
      (hfault : Numeral.readHex (String.ofList address) = .error fault) :
      LeftmostBad cs address fault
  | width {address width value : List Char} {fault : Numeral.Fault}
      (h : HasFields cs address width value)
      (haddress : ∃ n : UInt64, Numeral.SpellsHex address n.toNat)
      (hbad : ¬ ∃ n : UInt64, Numeral.Spells 10 width n.toNat)
      (hfault : Numeral.readDecimal (String.ofList width) = .error fault) :
      LeftmostBad cs width fault
  | value {address width value : List Char} {fault : Numeral.Fault}
      (h : HasFields cs address width value)
      (haddress : ∃ n : UInt64, Numeral.SpellsHex address n.toNat)
      (hwidth : ∃ n : UInt64, Numeral.Spells 10 width n.toNat)
      (hbad : ¬ ∃ n : UInt64, Numeral.SpellsHex value n.toNat)
      (hfault : Numeral.readHex (String.ofList value) = .error fault) :
      LeftmostBad cs value fault

/-! ## Reading -/

/-- Three fields are read from the left. -/
theorem read_of_hasFields {text : String} {address width value : List Char}
    (h : HasFields text.toList address width value) :
    read text =
      match Numeral.readHex (String.ofList address), Numeral.readDecimal (String.ofList width),
        Numeral.readHex (String.ofList value) with
      | .error fault, _, _ => .error (.field (String.ofList address) fault)
      | .ok _, .error fault, _ => .error (.field (String.ofList width) fault)
      | .ok _, .ok _, .error fault => .error (.field (String.ofList value) fault)
      | .ok a, .ok w, .ok v => .ok ⟨a, w, v⟩ := by
  rw [read, hasFields_iff.1 h]
  simp only [List.map_cons, List.map_nil]
  cases Numeral.readHex (String.ofList address) with
  | error fault => rfl
  | ok a =>
    cases Numeral.readDecimal (String.ofList width) with
    | error fault => rfl
    | ok w => cases Numeral.readHex (String.ofList value) <;> rfl

/-- A text without three fields has a bad shape. -/
theorem read_of_count_ne {text : String} (h : text.toList.count ':' ≠ 2) :
    read text = .error (.shape text) := by
  unfold read
  split
  · rename_i hfields
    refine absurd ?_ h
    have hlength := congrArg List.length hfields
    rw [List.length_map, Text.length_fields] at hlength
    exact Nat.add_right_cancel hlength
  · rfl

/-- The three ways in which a text is read. -/
inductive Reads (text : String) : Except SpellingError Patch → Prop
  | patch {p : Patch} (h : Spells text.toList p) : Reads text (.ok p)
  | shape (h : text.toList.count ':' ≠ 2) : Reads text (.error (.shape text))
  | field {field : List Char} {fault : Numeral.Fault} (h : LeftmostBad text.toList field fault) :
      Reads text (.error (.field (String.ofList field) fault))

/-- Every text is read in one of the three ways. -/
theorem reads_read (text : String) : Reads text (read text) := by
  by_cases hcount : text.toList.count ':' = 2
  · obtain ⟨address, width, value, h⟩ := exists_hasFields_iff.2 hcount
    rw [read_of_hasFields h]
    -- a field is looked at only if those before it are numerals
    cases ha : Numeral.readHex (String.ofList address) with
    | error fault => exact .field (.address h (Numeral.not_spellsHex_of_fault ha) ha)
    | ok a =>
      have haddress := Numeral.readHex_eq_ok_iff.1 ha
      cases hw : Numeral.readDecimal (String.ofList width) with
      | error fault =>
        exact .field (.width h ⟨a, haddress⟩ (Numeral.not_spells_of_fault hw) hw)
      | ok w =>
        have hwidth := Numeral.readDecimal_eq_ok_iff.1 hw
        cases hv : Numeral.readHex (String.ofList value) with
        | error fault =>
          exact .field
            (.value h ⟨a, haddress⟩ ⟨w, hwidth⟩ (Numeral.not_spellsHex_of_fault hv) hv)
        | ok v =>
          exact .patch ⟨address, width, value, h, haddress, hwidth,
            Numeral.readHex_eq_ok_iff.1 hv⟩
  · rw [read_of_count_ne hcount]
    exact .shape hcount

theorem read_of_spells {text : String} {p : Patch} (h : Spells text.toList p) :
    read text = .ok p := by
  obtain ⟨address, width, value, hfields, haddress, hwidth, hvalue⟩ := h
  rw [read_of_hasFields hfields, Numeral.readHex_eq_ok_iff.2 haddress,
    Numeral.readDecimal_eq_ok_iff.2 hwidth, Numeral.readHex_eq_ok_iff.2 hvalue]

theorem read_of_leftmostBad {text : String} {field : List Char} {fault : Numeral.Fault}
    (h : LeftmostBad text.toList field fault) :
    read text = .error (.field (String.ofList field) fault) := by
  cases h with
  | address h _ hfault => rw [read_of_hasFields h, hfault]
  | width h haddress _ hfault =>
    obtain ⟨a, ha⟩ := haddress
    rw [read_of_hasFields h, Numeral.readHex_eq_ok_iff.2 ha, hfault]
  | value h haddress hwidth _ hfault =>
    obtain ⟨a, ha⟩ := haddress
    obtain ⟨w, hw⟩ := hwidth
    rw [read_of_hasFields h, Numeral.readHex_eq_ok_iff.2 ha, Numeral.readDecimal_eq_ok_iff.2 hw,
      hfault]

/-! ## Writing -/

/-- A text is a patch written out: the address and the value in base sixteen, with letters of either
case, any zeros before them, and a mark or none; the width in base ten. -/
def Written (cs : List Char) (p : Patch) : Prop :=
  ∃ mark ∈ Numeral.hexMarks, ∃ mark' ∈ Numeral.hexMarks, ∃ address width value : List Char,
    cs = mark ++ address ++ ':' :: (width ++ ':' :: (mark' ++ value)) ∧
      (address ≠ [] ∧ Numeral.Denotes 16 address p.address.toNat) ∧
      (width ≠ [] ∧ Numeral.Denotes 10 width p.width.toNat) ∧
      (value ≠ [] ∧ Numeral.Denotes 16 value p.value.toNat)

/-- A written patch is spelled. -/
theorem Written.spells {cs : List Char} {p : Patch} (h : Written cs p) : Spells cs p := by
  obtain ⟨mark, hmark, mark', hmark', address, width, value, rfl, ⟨hane, ha⟩, ⟨hwne, hw⟩,
    ⟨hvne, hv⟩⟩ := h
  have haddress : Numeral.SpellsHex (mark ++ address) p.address.toNat :=
    ⟨mark, hmark, address, rfl, address, .inl rfl, hane, ha⟩
  have hwidth : Numeral.Spells 10 width p.width.toNat := ⟨width, .inl rfl, hwne, hw⟩
  have hvalue : Numeral.SpellsHex (mark' ++ value) p.value.toNat :=
    ⟨mark', hmark', value, rfl, value, .inl rfl, hvne, hv⟩
  have hfields : HasFields _ (mark ++ address) width (mark' ++ value) :=
    ⟨rfl, haddress.not_mem rfl (by decide) (by decide), hwidth.not_mem rfl (by decide),
      hvalue.not_mem rfl (by decide) (by decide)⟩
  exact ⟨_, _, _, hfields, haddress, hwidth, hvalue⟩

/-- **A text is read as the patch that it spells, and otherwise for its first fault.**  It is read
as a patch exactly if it has two colons and its fields spell the patch's numbers.  Its shape is the
fault exactly if the colons are not two.  A field is the fault exactly if it is the leftmost one
that is no numeral of 64 bits, and then the fault is the one that reading this field gives.  So a
patch that is written out is read back. -/
theorem read_classifies (text : String) :
    (∀ p, read text = .ok p ↔ Spells text.toList p) ∧
      (∀ told, read text = .error (.shape told) ↔ told = text ∧ text.toList.count ':' ≠ 2) ∧
      (∀ told fault, read text = .error (.field told fault) ↔
        LeftmostBad text.toList told.toList fault) ∧
      ∀ p, Written text.toList p → read text = .ok p := by
  have hreads := reads_read text
  refine ⟨fun p => ⟨fun h => ?_, read_of_spells⟩, fun told => ⟨fun h => ?_, ?_⟩,
    fun told fault => ⟨fun h => ?_, fun h => ?_⟩, fun p h => read_of_spells h.spells⟩
  · rw [h] at hreads
    cases hreads with
    | patch hspells => exact hspells
  · rw [h] at hreads
    cases hreads with
    | shape hcount => exact ⟨rfl, hcount⟩
  · rintro ⟨rfl, h⟩
    exact read_of_count_ne h
  · rw [h] at hreads
    cases hreads with
    | field hbad => rwa [String.toList_ofList]
  · rw [read_of_leftmostBad h, String.ofList_toList]

/-- A mark, zeros and letters of either case are read; of two bad fields the first one is told, in
which the sign stands before the mark. -/
theorem mixedSpelling_read :
    read "0X7e0010:02:00fF" = .ok ⟨0x7E0010, 2, 0xFF⟩ ∧
      read "+0x5:two:0" = .error (.field "+0x5" .invalidDigit) := by
  have hwritten : Written "0X7e0010:02:00fF".toList ⟨0x7E0010, 2, 0xFF⟩ :=
    ⟨['0', 'X'], by decide, [], by decide, "7e0010".toList, "02".toList, "00fF".toList, by decide,
      ⟨by decide, Numeral.denotes_of_value? (by decide)⟩,
      ⟨by decide, Numeral.denotes_of_value? (by decide)⟩,
      ⟨by decide, Numeral.denotes_of_value? (by decide)⟩⟩
  have hfields : HasFields "+0x5:two:0".toList "+0x5".toList "two".toList "0".toList :=
    hasFields_iff.2 (by decide)
  have hfault : Numeral.readHex "+0x5" = .error .invalidDigit := by decide
  have hbad : LeftmostBad "+0x5:two:0".toList "+0x5".toList .invalidDigit :=
    .address hfields (Numeral.not_spellsHex_of_fault hfault) hfault
  exact ⟨(read_classifies _).2.2.2 _ hwritten, ((read_classifies _).2.2.1 _ _).2 hbad⟩

end Patch
end CheatCode
