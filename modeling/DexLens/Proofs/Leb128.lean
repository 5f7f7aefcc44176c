import DexLens.Leb128
import Mathlib

/-! # Numbers of variable length

An unsigned number is read back as long as five bytes suffice. A signed one is read from its first byte alone.
-/

namespace DexLens.Leb128

open List Nat

lemma toNat_ofNat (hn : n < 256) : (UInt8.ofNat n).toNat = n := by rw [UInt8.toNat_ofNat', mod_eq_of_lt hn]

/-- A number that was written in at most so many bytes is read back, and no byte after it is read. -/
lemma readWithin_writeU (more : Nat) (hn : n < 128 ^ (more + 1)) (rest : Bytes) :
  readWithin more (writeU n ++ rest) = some (n, rest) ∧ (writeU n).length ≤ more + 1 := by
 induction more generalizing n with
 | zero =>
  have small : n < 128 := hn
  rw [writeU, if_pos small]
  simp [readWithin, mod_eq_of_lt (show n < 256 by omega)]
 | succ more ih =>
  rw [writeU]
  split
  · simp [readWithin, mod_eq_of_lt (show n < 256 by omega), *]
  · have high : n / 128 < 128 ^ (more + 1) := Nat.div_lt_of_lt_mul (by rwa [pow_succ, mul_comm] at hn)
    have byte : (n % 128 + 128) % 256 = n % 128 + 128 := mod_eq_of_lt (by omega)
    obtain ⟨hr, hl⟩ := ih high
    simp [readWithin, byte, hr, hl, mod_add_div]

lemma writeU_inj (same : writeU m = writeU n) : m = n := by
 have bound {k l : Nat} (hk : k ≤ l) : k < 128 ^ (l + 1) :=
  hk.trans_lt (Nat.lt_pow_self (by decide) |>.trans (Nat.pow_lt_pow_right (by decide) (lt_succ_self l)))
 have hm := (readWithin_writeU (m + n) (bound (le_add_right m n)) []).1
 rw [same, (readWithin_writeU (m + n) (bound (le_add_left n m)) []).1] at hm
 exact (Prod.mk.inj (Option.some.inj hm)).1.symm

lemma lt_length_writeU (hn : 128 ^ (more + 1) ≤ n) : more + 1 < (writeU n).length := by
 induction more generalizing n with
 | zero =>
  have high : (writeU (n / 128)).length ≠ 0 := by
   rw [writeU]
   split <;> simp
  rw [writeU, if_neg (by omega), length_cons]
  omega
 | succ more ih =>
  have high : 128 ^ (more + 1) ≤ n / 128 := (le_div_iff_mul_le (by decide)).mpr (by rwa [pow_succ] at hn)
  have small : ¬ n < 128 := by
   have : 0 < 128 ^ (more + 1) := by positivity
   omega
  rw [writeU, if_neg small, length_cons]
  exact succ_lt_succ (ih high)

/-- It ends where a byte is below 128, and not with a zero that could be left out. -/
def Shortest (bs : Bytes) : Prop := ∃ last ∈ bs.getLast?, last.toNat < 128 ∧ (bs.length = 1 ∨ last ≠ 0)

instance (bs : Bytes) : Decidable (Shortest bs) := inferInstanceAs (Decidable (∃ last ∈ bs.getLast?, _))

lemma Shortest.tail (hb : ¬ b.toNat < 128) (hs : Shortest (b :: bs)) : Shortest bs ∧ bs ≠ [0] := by
 obtain ⟨last, hm, hl, hn⟩ := hs
 cases bs with
 | nil =>
  cases hm
  exact absurd hl hb
 | cons c cs =>
  have hz : last ≠ 0 := hn.resolve_left (by simp)
  refine ⟨⟨last, by simpa using hm, hl, .inr hz⟩, fun one => hz ?_⟩
  cases one
  exact (Option.some.inj hm).symm

/-- At most so many bytes are taken from the front, and written as they stood if in shortest form. -/
lemma readWithin_eq_some (hr : readWithin more bs = some (n, rest)) :
  ∃ taken, bs = taken ++ rest ∧ taken.length ≤ more + 1 ∧ (Shortest taken -> writeU n = taken) := by
 have one {b : UInt8} (hb : b.toNat < 128) : writeU b.toNat = [b] := by
  rw [writeU, if_pos hb, UInt8.ofNat_toNat]
 induction more generalizing bs n with
 | zero =>
  obtain _ | ⟨b, bs⟩ := bs
  · cases hr
  · cases hr
    refine ⟨[b], rfl, le_rfl, fun ⟨last, hm, hl, _⟩ => one ?_⟩
    cases hm
    exact hl
 | succ more ih =>
  obtain _ | ⟨b, bs⟩ := bs
  · cases hr
  rw [readWithin] at hr
  split at hr
  · cases hr
    exact ⟨[b], rfl, by simp, fun _ => one ‹_›⟩
  · obtain ⟨⟨m, _⟩, hm, ⟨⟩⟩ := Option.map_eq_some_iff.mp hr
    obtain ⟨taken, rfl, hl, hw⟩ := ih hm
    refine ⟨b :: taken, rfl, succ_le_succ hl, fun hs => ?_⟩
    obtain ⟨hs, hz⟩ := hs.tail ‹_›
    have high : m ≠ 0 := by
     rintro rfl
     exact hz ((hw hs).symm.trans (one (b := 0) (by decide)))
    have byte : (b.toNat % 128 + 128 * m) % 128 + 128 = b.toNat := by have := b.toNat_lt; omega
    have rest : (b.toNat % 128 + 128 * m) / 128 = m := by omega
    rw [writeU, if_neg (by omega), byte, rest, hw hs, UInt8.ofNat_toNat]

/-- An unsigned number is read back, from exactly its bytes, if and only if it is below `2 ^ 35`. -/
theorem unsigned_read_back_iff (n : Nat) (rest : Bytes) :
  readUnsigned (writeUInt n ++ rest) = some (n, rest) ↔ n < 2 ^ 35 := by
 change readWithin 4 (writeU n ++ rest) = _ ↔ n < 128 ^ 5
 refine ⟨fun hr => ?_, fun hn => (readWithin_writeU 4 hn rest).1⟩
 by_contra hn
 -- The reader takes at most five bytes, and such a number has more.
 obtain ⟨taken, same, hl, -⟩ := readWithin_eq_some hr
 have := congrArg length (append_cancel_right same)
 have := lt_length_writeU (Nat.le_of_not_lt hn)
 omega

lemma writeS_ne_nil (v : Int) : writeS v ≠ [] := by
 rw [writeS]
 split <;> simp

lemma readSigned_writeS (hv : -64 ≤ v ∧ v < 64) (rest : Bytes) : readSigned (writeS v ++ rest) = some (v, rest) := by
 have byte : (UInt8.ofNat (v % 128).toNat).toNat = (v % 128).toNat := toNat_ofNat (by omega)
 rw [writeS, dif_pos hv]
 simp only [readSigned, cons_append, nil_append, byte]
 split_ifs <;> simp <;> omega

/-- A signed number is read back, from exactly its bytes, if and only if it is written in one byte. -/
theorem signed_read_back_iff (v : Int) (rest : Bytes) :
  readSigned (writeS v ++ rest) = some (v, rest) ↔ -64 ≤ v ∧ v < 64 := by
 refine ⟨fun hr => ?_, fun hv => readSigned_writeS hv rest⟩
 by_contra hv
 rw [writeS, dif_neg hv] at hr
 have more : (writeS (v / 128) ++ rest).length = rest.length := congrArg length (Prod.mk.inj (Option.some.inj hr)).2
 have := length_pos_iff.mpr (writeS_ne_nil (v / 128))
 rw [length_append] at more
 omega

/-- The least positive number that takes two bytes is read as a negative one. -/
theorem sixty_four_lost : writeS 64 = [0xc0, 0] ∧ readSigned [0xc0, 0] = some (-64, [0]) := ⟨by cbv, by cbv⟩

end DexLens.Leb128
