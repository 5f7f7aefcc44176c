import DexLens.Proofs.Code.Lossless
import DexLens.Proofs.Analysis.Blocks

/-! # Code that is cut off

No bytes stop a sweep in plain code. In optimized code, a two-byte opcode whose operands are cut off does.
-/

namespace DexLens.Code

open Analysis.Flow Instr List Opcode Option Sweep

/-- The number of bytes that a layout takes. -/
def Format.size : Format -> Nat
 | f10t | f10x | f11n | f11x | f12x => 2
 | f30t | f31c | f31i | f31t | f32x | f35c | f35mi | f35ms | f3rc | f3rmi | f3rms => 6
 | f40sc | f41c => 8
 | f51l | f52c | f5rc => 10
 | _ => 4

lemma decode?_eq_none {format : Format} : decode? format bs = none ↔ bs.length < format.size := by
 have hs : (decode? format bs).isSome = decide (format.size ≤ bs.length) := by
  rcases bs with _ | ⟨_, _ | ⟨_, _ | ⟨_, _ | ⟨_, _ | ⟨_, _ | ⟨_, _ | ⟨_, _ | ⟨_, _ | ⟨_, _ | ⟨_, rest⟩⟩⟩⟩⟩⟩⟩⟩⟩⟩
  all_goals cases format <;> rfl
 rw [<- isNone_iff_eq_none, <- isSome_eq_false_iff, hs, decide_eq_false_iff_not, not_le]

/-- Each instruction is decoded where the one before it ends, up to the limit or to where decoding fails. -/
lemma Sweep.run_located (odex : Bool) {code : Bytes} (hl : limit ≤ code.length)
  (hf : limit - start < fuel) (hr : run odex fuel (limit - start) (code.drop start) = (is, fault)) :
  (∀ x ∈ located start is, x.1 < limit ∧ next odex (limit - x.1) (code.drop x.1) = .ok x.2 ∧ 0 < x.2.length) ∧
   (fault = none -> limit ≤ finish start (located start is)) ∧
   ∀ cause, fault = some cause -> ∃ stop < limit, stop = finish start (located start is) ∧
    next odex (limit - stop) (code.drop stop) = .error cause := by
 induction fuel generalizing start is fault with
 | zero => cases hf
 | succ fuel ih =>
  unfold run at hr
  by_cases ends : limit - start = 0
  · rw [if_pos ends] at hr
    cases hr
    exact ⟨fun _ hm => (by cases hm), fun _ => Nat.sub_eq_zero_iff_le.mp ends, fun _ none => by cases none⟩
  rw [if_neg ends] at hr
  cases hd : next odex (limit - start) (code.drop start) with
  | error cause =>
   rw [hd] at hr
   cases hr
   refine ⟨fun _ hm => (by cases hm), fun none => (by cases none), ?_⟩
   rintro _ ⟨⟩
   exact ⟨start, by omega, rfl, hd⟩
  | ok ins =>
   have ha : 0 < ins.length := (from_next hd).advances (ne_nil_of_length_pos (by rw [length_drop]; omega))
   rw [hd] at hr
   simp only [drop_drop, Nat.sub_sub] at hr
   cases hn : run odex fuel (limit - (start + ins.length)) (code.drop (start + ins.length)) with
   | mk rest fault' =>
    rw [hn] at hr
    cases hr
    obtain ⟨hi, hs⟩ := ih (by omega) hn
    exact ⟨forall_mem_cons.mpr ⟨⟨by omega, hd, ha⟩, hi⟩, hs⟩

/-- Plain code of any bytes is decoded up to its end: every instruction takes some bytes, and each is decoded where
    the one before it ends. -/
theorem sweep_survives (units : Nat) (code : Bytes) (start : Nat) : ∃ is, sweep false units code start = (is, none) ∧
   (∀ x ∈ located start is, x.1 < min (2 * units) code.length ∧
    next false (min (2 * units) code.length - x.1) (code.drop x.1) = .ok x.2 ∧ 0 < x.2.length) ∧
   min (2 * units) code.length ≤ finish start (located start is) := by
 have hr : sweep false units code start = ((sweep false units code start).1, none) :=
  Prod.ext rfl (sweep_plain units code start).1
 obtain ⟨hi, he, -⟩ := run_located false (Nat.min_le_right ..) (by omega) hr
 exact ⟨_, hr, hi, he rfl⟩

/-! ## Cut-off instructions -/

/-- Does the instruction say that bytes could not be decoded? -/
def Instr.isReport : Instr -> Bool
 | fail _ | unresolved _ => true
 | _ => false

namespace Sweep

/-- Do these bytes start with the mark of a payload? -/
def marksPayload : Bytes -> Bool
 | o :: p :: _ => u16 o p = 0x100 || u16 o p = 0x200 || u16 o p = 0x300
 | _ => false

/-- Do these bytes start with a two-byte opcode of optimized code? -/
def marksOptimized : Bytes -> Bool
 | o :: p :: _ => (optimized? (u16 o p)).isSome
 | _ => false

/-- The length that a payload declares after its mark. -/
def declared (op : Nat) : Bytes -> Nat
 | s :: t :: rest =>
  if op = 0x100 then 8 + u16 s t * 4
  else if op = 0x200 then 4 + u16 s t * 4 * 2
  else match rest with
   | a :: b :: c :: d :: _ => ((u32 a b c d * u16 s t + 1) / 2 + 4) * 2
   | _ => 8
 | _ => 4

/-- How many bytes the instruction takes that stands at the front of optimized code. -/
def extent : Bytes -> Nat
 | o :: p :: rest =>
  if marksPayload (o :: p :: rest) then declared (u16 o p) rest
  else match (extended? (u16 o p)).or ((optimized? (u16 o p)).or main[o.toNat]?) with
   | some info => info.format.size
   | none => 2
 | _ => 2

/-- The instruction at the front takes more bytes than there are. -/
def CutOff (bs : Bytes) : Prop := bs.length < extent bs

lemma two_byte (ht : (extended? (u16 o p)).isSome = true ∨ (optimized? (u16 o p)).isSome = true) : o.toNat = 255 := by
 have byte := o.toNat_lt
 have hm : u16 o p % 256 = 255 := by
  rcases ht with ht | ht
  · exact (extended?_some (some_get ht).symm).1
  · exact (optimized?_some (some_get ht).symm).1
 unfold u16 at hm
 omega

lemma main_two_byte {o : UInt8} (ht : o.toNat = 255) : main[o.toNat]? = none :=
 Array.getElem?_eq_none_iff.mpr (by rw [size_main, ht])

/-- Unless it is a payload, which is taken for a `nop`. -/
lemma single_isReport (hc : CutOff bs) : (single true bs).isReport = !marksPayload bs := by
 rcases bs with _ | ⟨o, _ | ⟨p, rest⟩⟩
 · rfl
 · rfl
 cases hp : marksPayload (o :: p :: rest) with
 | true =>
  have hz : o.toNat = 0 := by
   have := o.toNat_lt
   simp only [marksPayload, Bool.or_eq_true, decide_eq_true_eq] at hp
   unfold u16 at hp
   omega
  obtain ⟨info, hm, hf⟩ : ∃ info, main[0]? = some info ∧ info.format = .f10x :=
   map_eq_some_iff.mp (by cbv : (main[0]?).map (·.format) = some .f10x)
  simp only [single, hz, hm, hf]
  rfl
 | false =>
  unfold single
  simp only
  cases hm : main[o.toNat]? with
  | none => rfl
  | some info =>
   have ht : ¬ ((extended? (u16 o p)).isSome = true ∨ (optimized? (u16 o p)).isSome = true) := by
    intro ht
    rw [main_two_byte (two_byte ht)] at hm
    cases hm
   simp only [not_or, Bool.not_eq_true, isSome_eq_false_iff, isNone_iff_eq_none] at ht
   simp only [CutOff, extent, hp, ht, hm, none_or, Bool.false_eq_true, if_false] at hc
   simp only [decode?_eq_none.mpr hc, getD_none]
   rfl

lemma payload?_isReport {op bs ins} (hd : payload? op bs = some ins) : ins.isReport = false := by
 have hp := isPayload_of_payload? hd
 cases ins with
 | packedSwitch | sparseSwitch | arrayData => rfl
 | _ => cases hp

/-- What may come of a two-byte opcode: an instruction, nothing, or a fault if its bytes are cut off. -/
lemma wide_cases (bs : Bytes) : (∃ ins, wide true bs = .ok (some ins) ∧
    (CutOff bs -> marksPayload bs = true ∧ ins.isReport = false)) ∨
   wide true bs = .ok none ∨
   wide true bs = .error .cutOff ∧ marksOptimized bs = true ∧ CutOff bs := by
 rcases bs with _ | ⟨o, _ | ⟨p, rest⟩⟩
 · exact .inr (.inl rfl)
 · exact .inr (.inl rfl)
 unfold wide
 simp only [CutOff, extent, marksOptimized]
 cases hp : marksPayload (o :: p :: rest) with
 | true =>
  rw [marksPayload] at hp
  rw [if_pos hp]
  cases hd : payload? (u16 o p) (o :: p :: rest) with
  | none => exact .inr (.inl rfl)
  | some ins => exact .inl ⟨ins, rfl, fun _ => ⟨rfl, payload?_isReport hd⟩⟩
 | false =>
  rw [marksPayload] at hp
  rw [if_neg (by simpa using hp)]
  cases he : extended? (u16 o p) with
  | some info =>
   cases hd : decode? info.format (o :: p :: rest) with
   | none => exact .inr (.inl (congrArg Except.ok hd))
   | some ins =>
    refine .inl ⟨ins, congrArg Except.ok hd, fun hc => ?_⟩
    cases hd.symm.trans (decode?_eq_none.mpr hc)
  | none =>
   cases ho : optimized? (u16 o p) with
   | none => exact .inr (.inl rfl)
   | some info =>
    simp only [if_true]
    cases hd : decode? info.format (o :: p :: rest) with
    | none => exact .inr (.inr ⟨rfl, rfl, decode?_eq_none.mp hd⟩)
    | some ins =>
     refine .inl ⟨ins, rfl, fun hc => ?_⟩
     cases hd.symm.trans (decode?_eq_none.mpr hc)

/-- Only a cut-off opcode of optimized code fails. -/
lemma next_cases (left : Nat) (bs : Bytes) :
  (∃ ins, next true left bs = .ok ins ∧ (CutOff bs -> ins.isReport = !marksPayload bs)) ∨
   next true left bs = .error .cutOff ∧ 2 < left ∧ marksOptimized bs = true ∧ CutOff bs := by
 cases bs with
 | nil => exact .inl ⟨_, rfl, fun _ => rfl⟩
 | cons o rest =>
  unfold next
  by_cases hl : ((o = 0 || o = 0xff) && 2 < left) = true
  · simp only [hl, if_true]
    rcases wide_cases (o :: rest) with ⟨ins, hw, hr⟩ | hw | ⟨hw, hr⟩
    · rw [hw]
      refine .inl ⟨ins, rfl, fun hc => ?_⟩
      obtain ⟨hp, hr⟩ := hr hc
      rw [hp, hr]
      rfl
    · rw [hw]
      exact .inl ⟨_, rfl, single_isReport⟩
    · rw [hw]
      exact .inr ⟨rfl, by simpa using (Bool.and_eq_true_iff.mp hl).2, hr⟩
  · simp only [hl]
    exact .inl ⟨_, rfl, single_isReport⟩

end Sweep

/-- Optimized code is decoded to its end, and all cut-off instructions in it are reported, exactly if no payload is
    cut off and no two-byte opcode of optimized code is. -/
theorem truncation_reported_iff (units : Nat) (code : Bytes) (start : Nat) : let (is, fault) := sweep true units code start
  (fault = none ∧ ∀ x ∈ located start is, CutOff (code.drop x.1) -> x.2.isReport = true) ↔
   (∀ x ∈ located start is, CutOff (code.drop x.1) -> marksPayload (code.drop x.1) = false) ∧
   ∀ stop, stop = finish start (located start is) -> stop + 2 < min (2 * units) code.length ->
    marksOptimized (code.drop stop) = true -> ¬ CutOff (code.drop stop) := by
 split
 rename_i is fault swept
 obtain ⟨hi, he, hs⟩ := run_located true (Nat.min_le_right ..) (by omega) swept
 have hr : ∀ x ∈ located start is, CutOff (code.drop x.1) -> x.2.isReport = !Sweep.marksPayload (code.drop x.1) := by
  intro x hm hc
  obtain ⟨-, hd, -⟩ := hi x hm
  rcases next_cases _ (code.drop x.1) with ⟨ins, hn, hr⟩ | ⟨hn, -⟩
  · cases hd.symm.trans hn
    exact hr hc
  · cases hd.symm.trans hn
 constructor
 · rintro ⟨hn, ha⟩
   refine ⟨fun x hm hc => ?_, ?_⟩
   · simpa [ha x hm hc] using hr x hm hc
   · rintro _ rfl hl
     have := he hn
     omega
 · rintro ⟨ha, ho⟩
   refine ⟨?_, fun x hm hc => by rw [hr x hm hc, ha x hm hc]; rfl⟩
   cases fault with
   | none => rfl
   | some cause =>
    obtain ⟨stop, hl, hf, hd⟩ := hs cause rfl
    rcases next_cases _ (code.drop stop) with ⟨ins, hn, -⟩ | ⟨-, hm, hk, hc⟩
    · cases hd.symm.trans hn
    · exact absurd hc (ho stop hf (by omega) hk)

set_option maxRecDepth 100000 in
/-- The first opcode of optimized code, with two bytes after it. -/
theorem opcode_cut_off : (sweep true 2 [0xff, 0xf2, 0, 0] 0).2 = some .cutOff := rfl

end DexLens.Code
