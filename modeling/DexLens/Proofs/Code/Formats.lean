import DexLens.Proofs.Code.Truncation

/-! # Layouts are lossless

An instruction is written as it was read, whatever its layout. Four layouts leave out the byte after the opcode.
-/

namespace DexLens.Code

open Instr List

/-- Does an instruction of this layout leave out the byte after its opcode? -/
def Format.skips : Format -> Bool
 | f10x | f20t | f30t | f32x => true
 | _ => false

lemma keeps_of_decode? {format bs ins} (hd : decode? format bs = some ins) :
  ins.length = format.size ∧ (ins.keeps bs = true ↔ (format.skips = true -> bs[1]? = some 0)) := by
 unfold decode? at hd
 split at hd
 case h_24 | h_25 | h_26 =>
  unfold decode?.five at hd
  split at hd <;> cases hd
  exact ⟨rfl, by simp [keeps, Format.skips]⟩
 case h_27 | h_28 | h_29 =>
  unfold decode?.range at hd
  split at hd <;> cases hd
  exact ⟨rfl, by simp [keeps, Format.skips]⟩
 case h_35 => cases hd
 all_goals
  cases hd
  exact ⟨rfl, by simp [keeps, Format.skips]⟩

/-- Bytes that a layout fits on are decoded, and written as they were exactly if the byte that it leaves out is zero. -/
theorem layout_lossless_iff {format : Format} {bs : Bytes} (long : format.size ≤ bs.length) :
  ∃ ins, decode? format bs = some ins ∧ ins.length = format.size ∧
   (ins.raw = bs.take ins.length ↔ (format.skips = true -> bs[1]? = some 0)) := by
 obtain ⟨ins, hd⟩ := Option.ne_none_iff_exists'.mp fun none => long.not_gt (decode?_eq_none.mp none)
 obtain ⟨hl, hk⟩ := keeps_of_decode? hd
 refine ⟨ins, hd, hl, ?_⟩
 rw [<- hk, <- (from_decode? hd).written]
 constructor
 · intro same
   rw [same, length_take, Nat.min_eq_left (hl ▸ long)]
   exact ⟨rfl, take_prefix ..⟩
 · rintro ⟨hr, hp⟩
   rw [<- hr, <- prefix_iff_eq_take]
   exact hp

/-- A jump two units back, before a return. -/
theorem jump_lossless : ∃ ins, decode? .f20t [41, 0, 254, 255, 14, 0] = some ins ∧ ins.raw = [41, 0, 254, 255] := by
 obtain ⟨ins, hd, hl, hr⟩ := @layout_lossless_iff .f20t [41, 0, 254, 255, 14, 0] (by decide)
 exact ⟨ins, hd, by rw [hr.mpr (by decide), hl]; rfl⟩

end DexLens.Code
