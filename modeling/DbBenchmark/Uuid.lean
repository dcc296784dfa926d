import DbBenchmark.CppString
import DbBenchmark.MixedRadix
import Mathlib.Data.Finset.Prod
import Mathlib.Data.Fintype.Prod
import Mathlib.Data.List.FinRange
import Mathlib.Data.List.Forall2

namespace DbBenchmark
open MixedRadix
set_option autoImplicit true

def hexDigit (d : Nat) : UInt8 := if d < 10 then 48 + UInt8.ofNat d else 87 + UInt8.ofNat d

/-- `std::hex` with `std::setfill('0')` and `std::setw(2)` -/
def printByte (b : UInt8) : CppString := (numeral hexDigit 16 b.toNat).leftpad 2 (hexDigit 0)

namespace DataGenerator

/-- The version goes into byte 6 and the variant into byte 8. -/
def stampVersion (bytes : Vector UInt8 16) : Vector UInt8 16 :=
  let bytes := bytes.set 6 ((bytes[6] &&& 0x0f) ||| 0x40)
  bytes.set 8 ((bytes[8] &&& 0x3f) ||| 0x80)

def printUuid (bytes : Vector UInt8 16) : CppString :=
  (List.finRange 16).flatMap fun i : Fin 16 =>
    (if i = 4 ∨ i = 6 ∨ i = 8 ∨ i = 10 then lit "-" else []) ++ printByte bytes[i]

/-- What `generate_uuid` returns once it has drawn its bytes. -/
def uuidText (bytes : Vector UInt8 16) : CppString := printUuid (stampVersion bytes)

end DataGenerator

def hyphenOffsets : List Nat := [8, 13, 18, 23]

structure IsUuidV4 (text : CppString) : Prop where
  length : text.length = 36
  hyphen : ∀ i (h : i < text.length), text[i] ∈ lit "-" ↔ i ∈ hyphenOffsets
  hexDigit : ∀ i (h : i < text.length), i ∉ hyphenOffsets → text[i] ∈ lit "0123456789abcdef"
  version : ∃ h : 14 < text.length, text[14] ∈ lit "4"
  variant : ∃ h : 19 < text.length, text[19] ∈ lit "89ab"

theorem hexDigit_inj : ∀ i < 16, ∀ j < 16, hexDigit i = hexDigit j → i = j := by decide

theorem hexDigit_mem : ∀ d < 16, hexDigit d ∈ lit "0123456789abcdef" := by decide

theorem printByte_eq (b : UInt8) : printByte b = digits hexDigit 16 2 b.toNat :=
  leftpad_numeral (by decide) b.toNat_lt

@[simp] theorem length_printByte (b : UInt8) : (printByte b).length = 2 := by
  rw [printByte_eq, length_digits]

theorem printByte_inj {a b : UInt8} : printByte a = printByte b ↔ a = b := by
  refine ⟨fun h => ?_, congrArg printByte⟩
  rw [printByte_eq, printByte_eq] at h
  exact UInt8.toNat_inj.1 (digits_inj hexDigit_inj a.toNat_lt b.toNat_lt h)

theorem masked_eq_iff {a b keep fixed : UInt8} (h : keep &&& fixed = 0) :
    (a &&& keep) ||| fixed = (b &&& keep) ||| fixed ↔
      ∀ j, keep.toNat.testBit j → a.toNat.testBit j = b.toNat.testBit j := by
  rw [← UInt8.toNat_inj] at h ⊢
  have hdisjoint (j : Nat) := congrArg (·.testBit j) h
  simp only [UInt8.toNat_and, Nat.testBit_and, UInt8.toNat_zero, Nat.zero_testBit] at hdisjoint
  constructor
  · intro he j hkeep
    have hj := congrArg (·.testBit j) he
    have hfixed := hdisjoint j
    simp only [UInt8.toNat_or, UInt8.toNat_and, Nat.testBit_or, Nat.testBit_and] at hj
    rw [hkeep, Bool.true_and] at hfixed
    simpa [hkeep, hfixed] using hj
  · intro hbits
    apply Nat.eq_of_testBit_eq
    intro j
    simp only [UInt8.toNat_or, UInt8.toNat_and, Nat.testBit_or, Nat.testBit_and]
    cases hkeep : keep.toNat.testBit j with
    | false => simp
    | true => rw [hbits j hkeep]

def keepMask (i : Fin 16) : UInt8 := if i = 6 then 0x0f else if i = 8 then 0x3f else 0xff

def fixedBits (i : Fin 16) : UInt8 := if i = 6 then 0x40 else if i = 8 then 0x80 else 0

/-- The bits of the draw that the masks do not overwrite, as byte and position in the byte. -/
def keptBits : Finset (Fin 16 × Fin 8) :=
  Finset.univ.filter fun bit => (keepMask bit.1).toNat.testBit bit.2

theorem stampVersion_getElem (bytes : Vector UInt8 16) (i : Fin 16) :
    (DataGenerator.stampVersion bytes)[i] = (bytes[i] &&& keepMask i) ||| fixedBits i := by
  have hones : (0xff : UInt8) = -1 := by decide
  have hall (b : UInt8) : (b &&& 0xff) ||| 0 = b := by
    rw [hones, UInt8.and_neg_one, UInt8.or_zero]
  by_cases h8 : i = 8
  · subst h8
    simp [DataGenerator.stampVersion, keepMask, fixedBits]
  · by_cases h6 : i = 6
    · subst h6
      simp [DataGenerator.stampVersion, keepMask, fixedBits]
    · rw [keepMask, fixedBits, if_neg h6, if_neg h8, if_neg h6, if_neg h8, hall]
      have h8' : 8 ≠ i.val := fun h => h8 (Fin.ext h.symm)
      have h6' : 6 ≠ i.val := fun h => h6 (Fin.ext h.symm)
      simp only [DataGenerator.stampVersion, Fin.getElem_fin]
      rw [Vector.getElem_set_ne _ _ h8', Vector.getElem_set_ne _ _ h6']

theorem printUuid_inj {m m' : Vector UInt8 16} :
    DataGenerator.printUuid m = DataGenerator.printUuid m' ↔ ∀ i : Fin 16, m[i] = m'[i] := by
  rw [DataGenerator.printUuid, DataGenerator.printUuid, flatMap_inj]
  · simp only [List.mem_finRange, true_implies, List.append_cancel_left_eq, printByte_inj]
  · intro i
    simp only [List.length_append, length_printByte]

theorem uuidText_eq_iff (bytes bytes' : Vector UInt8 16) :
    DataGenerator.uuidText bytes = DataGenerator.uuidText bytes' ↔
      ∀ bit ∈ keptBits, bytes[bit.1].toNat.testBit bit.2 = bytes'[bit.1].toNat.testBit bit.2 := by
  have hdisjoint : ∀ i, keepMask i &&& fixedBits i = 0 := by decide
  have hbyte (i : Fin 16) := masked_eq_iff (a := bytes[i]) (b := bytes'[i]) (hdisjoint i)
  rw [DataGenerator.uuidText, DataGenerator.uuidText, printUuid_inj]
  simp only [stampVersion_getElem, hbyte]
  constructor
  · rintro h ⟨i, j⟩ hbit
    exact h i j (Finset.mem_filter.1 hbit).2
  · intro h i j hkeep
    have hj : j < 8 := by
      by_contra hge
      have hlt := (keepMask i).toNat_lt.trans_le (Nat.pow_le_pow_right two_pos (not_lt.1 hge))
      rw [Nat.testBit_lt_two_pow hlt] at hkeep
      cases hkeep
    exact h (i, ⟨j, hj⟩) (Finset.mem_filter.2 ⟨Finset.mem_univ _, hkeep⟩)

def hexDigits : CppString := lit "0123456789abcdef"

/-- The characters that the first digit of byte `i` can be. -/
def leadingDigits (i : Fin 16) : CppString :=
  if i = 6 then lit "4" else if i = 8 then lit "89ab" else hexDigits

def uuidTemplate : List CppString :=
  (List.finRange 16).flatMap fun i : Fin 16 =>
    (if i = 4 ∨ i = 6 ∨ i = 8 ∨ i = 10 then [lit "-"] else []) ++ [leadingDigits i, hexDigits]

theorem versionDigit : ∀ n < 256, (UInt8.ofNat n &&& 0x0f ||| 0x40).toNat / 16 = 4 := by
  decide +kernel

theorem variantDigit : ∀ n < 256, (UInt8.ofNat n &&& 0x3f ||| 0x80).toNat / 16 ∈ [8, 9, 10, 11] := by
  decide +kernel

theorem leadingDigit_mem (i : Fin 16) (b : UInt8) :
    hexDigit ((b &&& keepMask i ||| fixedBits i).toNat / 16) ∈ leadingDigits i := by
  rw [keepMask, fixedBits, leadingDigits]
  split
  · have hversion := versionDigit b.toNat b.toNat_lt
    rw [UInt8.ofNat_toNat] at hversion
    rw [hversion]
    decide
  · split
    · have hvariant := variantDigit b.toNat b.toNat_lt
      rw [UInt8.ofNat_toNat] at hvariant
      revert hvariant
      generalize (b &&& 0x3f ||| 0x80).toNat / 16 = d
      revert d
      decide
    · exact hexDigit_mem _ (Nat.div_lt_of_lt_mul (UInt8.toNat_lt _))

theorem printByte_nibbles (b : UInt8) :
    printByte b = [hexDigit (b.toNat / 16), hexDigit (b.toNat % 16)] := by
  have hhigh : b.toNat / 16 < 16 := Nat.div_lt_of_lt_mul b.toNat_lt
  rw [printByte_eq, digits, digits, digits, Nat.mod_eq_of_lt hhigh]
  rfl

theorem uuidText_template (bytes : Vector UInt8 16) :
    List.Forall₂ (· ∈ ·) (DataGenerator.uuidText bytes) uuidTemplate := by
  have hbyte (i : Fin 16) : List.Forall₂ (· ∈ ·)
      (printByte (DataGenerator.stampVersion bytes)[i]) [leadingDigits i, hexDigits] := by
    rw [printByte_nibbles, stampVersion_getElem]
    exact .cons (leadingDigit_mem i _) (.cons (hexDigit_mem _ (Nat.mod_lt _ (by decide))) .nil)
  have hblock : ∀ i : Fin 16, List.Forall₂ (· ∈ ·)
      ((if i = 4 ∨ i = 6 ∨ i = 8 ∨ i = 10 then lit "-" else []) ++
        printByte (DataGenerator.stampVersion bytes)[i])
      ((if i = 4 ∨ i = 6 ∨ i = 8 ∨ i = 10 then [lit "-"] else []) ++
        [leadingDigits i, hexDigits]) := by
    intro i
    split
    · exact .cons (by decide) (hbyte i)
    · exact hbyte i
  rw [DataGenerator.uuidText, DataGenerator.printUuid, uuidTemplate]
  induction List.finRange 16 with
  | nil => exact .nil
  | cons i indices ih =>
    rw [List.flatMap_cons, List.flatMap_cons]
    exact List.rel_append (hblock i) ih

theorem uuidTemplate_offsets : ∀ i (h : i < uuidTemplate.length),
    (i ∈ hyphenOffsets ∧ uuidTemplate[i] = lit "-") ∨
      (i ∉ hyphenOffsets ∧ uuidTemplate[i] ⊆ hexDigits) := by
  decide +kernel

theorem isUuidV4_of_template {text : CppString} (h : List.Forall₂ (· ∈ ·) text uuidTemplate) :
    IsUuidV4 text := by
  have htemplate : uuidTemplate.length = 36 := by decide
  have hlen : text.length = 36 := h.length_eq.trans htemplate
  have hget (i : Nat) (hi : i < text.length) (hi' : i < uuidTemplate.length) :
      text[i] ∈ uuidTemplate[i] := h.get hi hi'
  have hnone : ∀ c ∈ hexDigits, c ∉ lit "-" := by decide +kernel
  refine ⟨hlen, ?_, ?_, ⟨by omega, hget 14 (by omega) (by decide)⟩,
    ⟨by omega, hget 19 (by omega) (by decide)⟩⟩
  · intro i hi
    have hmem := hget i hi (h.length_eq ▸ hi)
    rcases uuidTemplate_offsets i (h.length_eq ▸ hi) with ⟨hoffset, heq⟩ | ⟨hoffset, hsub⟩
    · rw [heq] at hmem
      exact ⟨fun _ => hoffset, fun _ => hmem⟩
    · exact ⟨fun hc => (hnone _ (hsub hmem) hc).elim, fun hi' => (hoffset hi').elim⟩
  · intro i hi hoffset
    have hmem := hget i hi (h.length_eq ▸ hi)
    rcases uuidTemplate_offsets i (h.length_eq ▸ hi) with ⟨hoffset', _⟩ | ⟨_, hsub⟩
    · exact (hoffset hoffset').elim
    · exact hsub hmem

theorem isUuidV4_uuidText (bytes : Vector UInt8 16) : IsUuidV4 (DataGenerator.uuidText bytes) :=
  isUuidV4_of_template (uuidText_template bytes)

/-- The text is canonical, and draws that differ in one of the 122 kept bits print differently. -/
theorem uuidText_canonical (bytes bytes' : Vector UInt8 16) :
    IsUuidV4 (DataGenerator.uuidText bytes) ∧ keptBits.card = 122 ∧
      (DataGenerator.uuidText bytes = DataGenerator.uuidText bytes' ↔
        ∀ bit ∈ keptBits,
          bytes[bit.1].toNat.testBit bit.2 = bytes'[bit.1].toNat.testBit bit.2) :=
  ⟨isUuidV4_uuidText bytes, by decide +kernel, uuidText_eq_iff bytes bytes'⟩

example : DataGenerator.uuidText (.replicate 16 0x0b) =
    lit "0b0b0b0b-0b0b-4b0b-8b0b-0b0b0b0b0b0b" := by decide +kernel

end DbBenchmark
