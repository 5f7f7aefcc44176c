import DexLens.Proofs.Code.Plain
import DexLens.Proofs.Effect

/-! # Writing decoded code back

Instructions are written as they were read, with three exceptions. A layout without a use for the byte after its
opcode does not hold that byte, a payload may declare more than the code has, and the elements of an array are
read with one byte of what follows them.
-/

namespace DexLens.Bytes

open Int

variable (bs : Bytes)

lemma toNatLE_lt : toNatLE bs < 256 ^ bs.length := by
 induction bs with
 | nil => exact one_pos
 | cons b bs ih =>
  have := b.toNat_lt
  simp only [toNatLE, List.length_cons, pow_succ]
  omega

lemma ofNatLE_toNatLE : ofNatLE bs.length (toNatLE bs) = bs := by
 induction bs with
 | nil => rfl
 | cons b bs ih =>
  have byte := b.toNat_lt
  have low : (b.toNat + 256 * toNatLE bs) % 256 = b.toNat := by omega
  have high : (b.toNat + 256 * toNatLE bs) / 256 = toNatLE bs := by omega
  simp only [toNatLE, List.length_cons, ofNatLE, low, high, ih, UInt8.ofNat_toNat]

lemma ofIntLE_toIntLE : ofIntLE bs.length (toIntLE bs) = bs := by
 have hr : (0 : Int) ≤ toNatLE bs ∧ (toNatLE bs : Int) < (256 ^ bs.length : Nat) :=
  ⟨natCast_nonneg _, ofNat_lt.mpr (toNatLE_lt bs)⟩
 have hp : .pow 2 (8 * bs.length) = 256 ^ bs.length := pow_mul 2 8 bs.length
 have same : toIntLE bs % ((256 ^ bs.length : Nat) : Int) = toNatLE bs := by
  unfold toIntLE
  simp only [hp]
  split
  · rw [sub_emod_right, emod_eq_of_lt hr.1 hr.2]
  · exact emod_eq_of_lt hr.1 hr.2
 change ofNatLE _ (toIntLE bs % ((256 ^ bs.length : Nat) : Int)).toNat = bs
 rw [same, toNat_natCast, ofNatLE_toNatLE]

end DexLens.Bytes

namespace DexLens.Code

open List Bytes Instr Nat

variable (a b c d : UInt8)

namespace Instr

@[simp] lemma b1_toNat (o : UInt8) : b1 o.toNat = o := UInt8.ofNat_toNat

@[simp] lemma b2_toNat (o : UInt8) : b2 o.toNat = [o, 0] := by
 have byte := o.toNat_lt
 simp [b2, ofNatLE, mod_eq_of_lt byte, div_eq_of_lt byte]

@[simp] lemma b2_u16 : b2 (u16 b c) = [b, c] := ofNatLE_toNatLE [b, c]

@[simp] lemma b4_u32 : b4 (u32 a b c d) = [a, b, c, d] := ofNatLE_toNatLE [a, b, c, d]

@[simp] lemma ofIntLE_s8 : ofIntLE 1 (s8 b) = [b] := ofIntLE_toIntLE [b]

@[simp] lemma i2_s16 : i2 (s16 b c) = [b, c] := ofIntLE_toIntLE [b, c]

@[simp] lemma i4_s32 : i4 (s32 a b c d) = [a, b, c, d] := ofIntLE_toIntLE [a, b, c, d]

@[simp] lemma ofIntLE_eight (e f g h : UInt8) : ofIntLE 8 (toIntLE [a, b, c, d, e, f, g, h]) = [a, b, c, d, e, f, g, h] :=
 ofIntLE_toIntLE [a, b, c, d, e, f, g, h]

@[simp] lemma halves_low_high : halves (low b) (high b) = b := by rw [halves, low, high, mod_add_div, UInt8.ofNat_toNat]

@[simp] lemma halves_signed : halves (low b) (Int.fdiv (s8 b) 16 % 16).toNat = b := by
 have byte := b.toNat_lt
 have signed : s8 b = if 128 ≤ b.toNat then (b.toNat : Int) - 256 else b.toNat := by simp [s8, toIntLE, toNatLE]
 have same : (Int.fdiv (s8 b) 16 % 16).toNat = high b := by
  rw [Int.fdiv_eq_ediv_of_nonneg _ (by decide), high]
  split at signed <;> omega
 rw [same, halves_low_high]

/-- Is the instruction that was read from these bytes written as they are? -/
def keeps (bs : Bytes) : Instr -> Bool
 | f10x _ | f20t _ _ | f30t _ _ | f32x _ _ _ | fail _ => bs[1]? == some 0
 | packedSwitch size _ _ => 8 + size * 4 ≤ bs.length
 | arrayData width size _ =>
  if size * width % 2 = 1 then 8 + size * width < bs.length else bs.length = 8 + size * width
 | _ => true

/-- The instruction was read from the front of these bytes. -/
structure From (bs : Bytes) (ins : Instr) : Prop where
 advances : bs ≠ [] -> 0 < ins.length
 written : ins.raw.length = ins.length ∧ ins.raw <+: bs ↔ ins.keeps bs = true

-- Taken apart here, so that no proof below has to wait for another to do it.
attribute [local simp] length raw keeps

lemma from_regs
  (hd : (∃ bare, decode?.five bare bs = some ins) ∨ decode?.range bs = some ins) : ins.From bs := by
 rcases hd with ⟨bare, hd⟩ | hd
 · unfold decode?.five at hd
   split at hd
   · cases hd
     exact ⟨fun _ => by simp, by simp⟩
   · cases hd
 · unfold decode?.range at hd
   split at hd
   · cases hd
     exact ⟨fun _ => by simp, by simp⟩
   · cases hd

section

variable {bs rest : Bytes} {ins : Instr}

lemma from_decode? {format bs ins} (hd : decode? format bs = some ins) : ins.From bs := by
 unfold decode? at hd
 split at hd
 case h_24 | h_25 | h_26 => exact from_regs (.inl ⟨_, hd⟩)
 case h_27 | h_28 | h_29 => exact from_regs (.inr hd)
 case h_35 => cases hd
 all_goals
  cases hd
  exact ⟨fun _ => by simp, by simp [@eq_comm _ (0 : UInt8)]⟩

lemma words?_some {count bs rest ws} (read : words? count bs = some (ws, rest)) :
  ws.length = count ∧ bs = ws.flatMap i4 ++ rest := by
 fun_induction words? count bs generalizing ws with
 | case1 =>
  cases read
  exact ⟨rfl, rfl⟩
 | case2 count a b c d bs ih =>
  obtain ⟨⟨ws, rest'⟩, ho, same⟩ := Option.map_eq_some_iff.mp read
  cases same
  obtain ⟨hl, rfl⟩ := ih ho
  exact ⟨congrArg (· + 1) hl, by simp⟩
 | case3 => cases read

lemma length_flatMap_i4 (ws : List Int) : (ws.flatMap i4).length = 4 * ws.length := by
 have word w : (i4 w).length = 4 := rfl
 simp [length_flatMap, word, mul_comm]

lemma From.of_length (hs : 0 < ins.length) (hf : ins.raw <+: bs)
  (hl : ins.raw.length = ins.length ↔ ins.keeps bs = true) : ins.From bs :=
 ⟨fun _ => hs, (and_iff_left hf).trans hl⟩

lemma from_packedSwitch? (op : u16 o p = 0x100) (hd : packedSwitch? (o :: p :: rest) = some ins) :
  ins.From (o :: p :: rest) := by
 have hf : b2 0x100 = [o, p] := by rw [<- op, b2_u16]
 unfold packedSwitch? at hd
 split at hd
 · rename_i same
   cases same
   obtain ⟨⟨dsts, rest'⟩, hw, rfl⟩ := Option.map_eq_some_iff.mp hd
   obtain ⟨hc, rfl⟩ := words?_some hw
   refine .of_length (by simp) (by simp [hf]) ?_
   simp only [length_cons, length_append, length_flatMap_i4] at hc
   simp only [raw, length, keeps, hf, b2_u16, i4_s32, length_append, length_cons, length_nil,
    length_flatMap_i4, decide_eq_true_eq]
   split at hc <;> omega
 · cases hd

lemma from_sparseSwitch? (op : u16 o p = 0x200) (hd : sparseSwitch? (o :: p :: rest) = some ins) :
  ins.From (o :: p :: rest) := by
 have hf : b2 0x200 = [o, p] := by rw [<- op, b2_u16]
 unfold sparseSwitch? at hd
 split at hd
 · rename_i same
   cases same
   simp only [bind, pure, Option.bind_eq_some_iff, Option.some.injEq] at hd
   obtain ⟨⟨keys, _⟩, hr, ⟨dsts, rest'⟩, hs, rfl⟩ := hd
   obtain ⟨hk, rfl⟩ := words?_some hr
   obtain ⟨ht, rfl⟩ := words?_some hs
   refine .of_length (by simp) (by simp [hf]) ?_
   simp only [raw, length, keeps, hf, b2_u16, length_append, length_cons, length_nil, length_flatMap_i4, hk, ht, iff_true]
   omega
 · cases hd

lemma from_arrayData? (op : u16 o p = 0x300) (hd : arrayData? (o :: p :: rest) = some ins) :
  ins.From (o :: p :: rest) := by
 have hf : b2 0x300 = [o, p] := by rw [<- op, b2_u16]
 unfold arrayData? at hd
 split at hd
 · rename_i same
   cases same
   cases hd
   refine .of_length (by simp) (by simp [hf, take_prefix]) ?_
   simp only [raw, length, keeps, hf, b2_u16, b4_u32, length_append, length_cons, length_nil, length_take]
   generalize u32 _ _ _ _ * u16 _ _ = total
   split <;> rw [decide_eq_true_eq] <;> omega
 · cases hd

end

lemma from_payload? (op : u16 o p = 0x100 ∨ u16 o p = 0x200 ∨ u16 o p = 0x300)
  (hd : payload? (u16 o p) (o :: p :: rest) = some ins) : ins.From (o :: p :: rest) := by
 rcases op with op | op | op
 · exact from_packedSwitch? op (by rwa [op] at hd)
 · exact from_sparseSwitch? op (by rwa [op] at hd)
 · exact from_arrayData? op (by rwa [op] at hd)

lemma Decoded.from (hd : Decoded odex bs ins) : ins.From bs := by
 cases hd with
 | payload op hd => exact from_payload? op hd
 | fail => exact ⟨fun _ => by simp, by simp [@eq_comm _ (0 : UInt8)]⟩
 | unresolved => exact ⟨length_pos_iff.mpr, by simp⟩
 | listed _ hd => exact from_decode? hd

end Instr

namespace Sweep

lemma from_next (hn : next odex left bs = .ok ins) : ins.From bs := (next_decoded hn).from

/-- Decoded instructions, each with the bytes from its place on. -/
def sites : List Instr -> Bytes -> List (Instr × Bytes)
 | [], _ => []
 | ins :: rest, bs => (ins, bs) :: sites rest (bs.drop ins.length)

lemma run_lossless_iff (odex : Bool) (hn : bs.length < fuel) : (run odex fuel bs.length bs).1.flatMap raw = bs ∧
    (∀ ins ∈ (run odex fuel bs.length bs).1, ins.raw.length = ins.length) ↔
   (run odex fuel bs.length bs).2 = none ∧ ∀ site ∈ sites (run odex fuel bs.length bs).1 bs, site.1.keeps site.2 = true := by
 induction fuel generalizing bs with
 | zero => cases hn
 | succ fuel ih =>
  unfold run
  by_cases he : bs = []
  · subst he
    simp [sites]
  rw [if_neg (by simpa using he)]
  cases hd : next odex bs.length bs with
  | error cause => simp [Ne.symm he]
  | ok ins =>
   obtain ⟨ha, hr⟩ := from_next hd
   have hs : (bs.drop ins.length).length < fuel := by
    have hp := ha he
    have hb := length_pos_iff.mpr he
    rw [length_drop]
    omega
   have rest := ih hs
   rw [length_drop] at rest
   simp only [flatMap_cons, forall_mem_cons, sites, <- hr]
   generalize run odex fuel (bs.length - ins.length) (bs.drop ins.length) = tail at rest ⊢
   constructor
   · rintro ⟨hw, same, ho⟩
     have hf : tail.1.flatMap raw = bs.drop ins.length := by rw [<- hw, <- same, drop_left]
     obtain ⟨ends, kept⟩ := rest.mp ⟨hf, ho⟩
     exact ⟨ends, ⟨same, hw ▸ prefix_append ..⟩, kept⟩
   · rintro ⟨ends, ⟨same, ht⟩, kept⟩
     obtain ⟨hw, ho⟩ := rest.mpr ⟨ends, kept⟩
     refine ⟨?_, same, ho⟩
     rw [hw, <- same, <- prefix_append_drop ht]

end Sweep

/-- Decoded code is written back as it was exactly if decoding ends without a fault and each instruction is written as
    it stands at its place. In plain code there is no fault. -/
theorem sweep_lossless_iff (odex : Bool) {units : Nat} {code : Bytes} (whole : code.length ≤ 2 * units) :
  ((sweep odex units code 0).1.flatMap raw = code ∧ (∀ ins ∈ (sweep odex units code 0).1, ins.raw.length = ins.length) ↔
   (sweep odex units code 0).2 = none ∧ ∀ site ∈ Sweep.sites (sweep odex units code 0).1 code, site.1.keeps site.2 = true) ∧
   (sweep false units code 0).2 = none := by
 refine ⟨?_, (sweep_plain units code 0).1⟩
 have all := Sweep.run_lossless_iff odex (lt_succ_self code.length)
 simpa only [sweep, Nat.min_eq_right whole, Nat.sub_zero, List.drop_zero] using all

/-- A constant, two switches, an array of three bytes and a return. -/
def payloads : Bytes :=
 [0x12, 0x30, 0, 1, 2, 0, 5, 0, 0, 0, 4, 0, 0, 0, 6, 0, 0, 0, 0, 2, 1, 0, 9, 0, 0, 0, 7, 0, 0, 0,
  0, 3, 1, 0, 3, 0, 0, 0, 0x41, 0x42, 0x43, 0, 0x0e, 0]

set_option maxRecDepth 100000

theorem payloads_lossless : payloads.length ≤ 2 * 22 ∧ (sweep false 22 payloads 0).1.flatMap raw = payloads ∧
  ∀ ins ∈ (sweep false 22 payloads 0).1, ins.raw.length = ins.length :=
 ⟨by decide, (sweep_lossless_iff false (by decide)).1.mpr (by decide)⟩

/-- The elements of an array of two bytes are written with the byte that follows them. -/
theorem even_array_grows : (sweep false 6 [0, 3, 1, 0, 2, 0, 0, 0, 0x41, 0x42, 0x0e, 0] 0).1.flatMap raw =
  [0, 3, 1, 0, 2, 0, 0, 0, 0x41, 0x42, 0x0e, 0x0e, 0] := rfl

end DexLens.Code
