import DexLens.Proofs.Code.Truncation
import DexLens.Code.Operand

/-! # Names and operands of decoded instructions

Decoding picks the table of an opcode by its bytes, naming by its number. The two agree but for `const-class/jumbo`.
Of a range of registers, all but the last are listed.
-/

namespace DexLens.Code

open List Instr Analysis Analysis.Flow

variable {count idx : Nat} {here : Bytes} {t : Tables} {kind : RefKind} {text : Option String} {odex : Bool} {ins : Instr}

namespace Instr

/-- An instruction that was decoded by an entry of the tables has the name of that entry. -/
def Titled (odex : Bool) (ins : Instr) (name : String) : Prop :=
 ins.isReport = false -> ins.isPayload = false -> (Opcode.listed? odex ins.op.toNat).map (·.name) = some name

lemma Spelled.title (hs : ins.Spelled n info) (hl : Opcode.listed? odex n = some info) :
  if ins.jumbo then ins.name = .error .noKey else ins.name = .ok info.name ∧ ins.Titled odex info.name := by
 have name := hs.name
 rw [Opcode.find?_listed hl] at name
 by_cases hf : n = 0xff
 · have he : info.format = .f41c := by
    subst hf
    cases odex <;> cases hl <;> rfl
   rw [if_pos hf] at name
   rw [if_pos (by simp [hs.jumboClass, hf, he])]
   exact name
 · rw [if_neg hf] at name
   rw [if_neg (by simp [hs.jumboClass, hf])]
   exact ⟨name, fun _ _ => by rw [hs.op, Int.toNat_natCast, hl]; rfl⟩

lemma Decoded.title (hd : ins.Decoded odex here) :
  if ins.jumbo then ins.name = .error .noKey else ∃ name, ins.name = .ok name ∧ ins.Titled odex name := by
 cases hd with
 | payload _ hd =>
  have hp := Sweep.isPayload_of_payload? hd
  cases ins with
  | packedSwitch | sparseSwitch | arrayData => exact ⟨_, rfl, fun _ ho => by simp [hp] at ho⟩
  | _ => cases hp
 | fail | unresolved => exact ⟨_, rfl, nofun⟩
 | listed hl _ hs =>
  have ht := hs.title hl
  split at ht
  · rwa [if_pos ‹_›]
  · rw [if_neg ‹_›]
    exact ⟨_, ht⟩

lemma Decoded.name_iff (hd : ins.Decoded odex here) :
  (∃ name, ins.name = .ok name ∧ ins.Titled odex name) ↔ ins.jumbo = false := by
 have ht := hd.title
 cases hj : ins.jumbo with
 | false => simpa [hj] using ht
 | true =>
  rw [hj, if_pos rfl] at ht
  simp [ht]

end Instr

lemma succs_error {all : Located} (he : succs all idx ins = .error cause) : cause = .noPart := by
 unfold succs at he
 simp only at he
 repeat' split at he
 all_goals cases he
 rfl

lemma branches_noKey {code all : Located} (named : ∀ x ∈ code, ∃ name, x.2.name = .ok name) :
  branches code all ≠ .error .noKey := by
 intro he
 unfold branches at he
 simp only [bind, Except.bind] at he
 split at he
 · rename_i hm
   cases he
   obtain ⟨x, hx, hf⟩ := Res.mapM_error hm
   obtain ⟨name, hn⟩ := named x hx
   simp only [hn] at hf
   split at hf
   · cases hs : succs all x.1 x.2 with
     | ok ts => rw [hs] at hf; cases hf
     | error cause =>
      rw [hs] at hf
      cases hf
      cases succs_error hs
   · cases hf
 · cases he

/-- A decoded instruction has the name of its entry, unless it is `const-class/jumbo`. Where that one occurs, branches
    cannot be told; else no name is missing. -/
theorem sweep_named_iff (odex : Bool) (units : Nat) (code : Bytes) (start : Nat) : let is := (sweep odex units code start).1
  (∀ ins ∈ is, (∃ name, ins.name = .ok name ∧ ins.Titled odex name) ↔ ins.jumbo = false) ∧
   ∀ all, ((∀ ins ∈ is, ins.jumbo = false) -> branches (located start is) all ≠ .error .noKey) ∧
    ((∃ ins ∈ is, ins.jumbo = true) -> ∃ cause, branches (located start is) all = .error cause) := by
 intro is
 have named : ∀ ins ∈ is, (∃ name, ins.name = .ok name ∧ ins.Titled odex name) ↔ ins.jumbo = false := by
  intro ins hm
  obtain ⟨here, hd⟩ := (sweep_decoded odex units code start).2 ins hm
  exact hd.name_iff
 have all_named : (∀ x ∈ located start is, ∃ name, x.2.name = .ok name) ↔ ∀ ins ∈ is, ∃ name, ins.name = .ok name :=
  forall_located (P := fun ins => ∃ name, ins.name = .ok name)
 refine ⟨named, fun all => ⟨fun hj => branches_noKey (all_named.mpr fun ins hm => ?_), fun ⟨ins, hm, hj⟩ => ?_⟩⟩
 · obtain ⟨name, ho, -⟩ := (named ins hm).mpr (hj ins hm)
   exact ⟨name, ho⟩
 · cases hb : branches (located start is) all with
   | error cause => exact ⟨cause, rfl⟩
   | ok found =>
    obtain ⟨here, hd⟩ := (sweep_decoded odex units code start).2 ins hm
    obtain ⟨name, ho⟩ := all_named.mp (name_of_branches hb) ins hm
    have ht := hd.title
    rw [if_pos hj, ho] at ht
    cases ht

set_option maxRecDepth 100000

/-- The opcode `00ff` is decoded, but has no name. -/
theorem const_class_jumbo_nameless : ((sweep false 4 [0xff, 0, 0, 0, 0, 0, 0, 0] 0).1.map (·.name)) =
  [.error .noKey] := rfl

/-! ## Ranges of registers -/

/-- The number of registers, the first of them and the index. -/
def Format.range? : Format -> Bytes -> Option (Nat × Nat × Nat)
 | f3rc, _ :: n :: i :: j :: c :: d :: _ | f3rmi, _ :: n :: i :: j :: c :: d :: _
 | f3rms, _ :: n :: i :: j :: c :: d :: _ => some (n.toNat, u16 c d, u16 i j)
 | f5rc, _ :: _ :: i :: j :: k :: l :: m :: n :: c :: d :: _ => some (u16 m n, u16 c d, u32 i j k l)
 | _, _ => none

/-- This many registers from the first one on. -/
def regs (count first : Nat) : List Operand := (range count).map fun i => .reg (first + i : Nat)

lemma operands_f3rc {op first : Nat} (hr : (f3rc op count idx first).reference t idx = .ok (kind, text)) :
  (f3rc op count idx first).operands t =
   .ok (regs (if count = 1 then 1 else count - 1) first ++ [.reference (0x100 + kind.code) idx text]) := by
 have hs : rangeOperands count first = regs (if count = 1 then 1 else count - 1) first := by
  unfold rangeOperands regs
  split <;> simp
 simp [operands, hr, hs, bind, Except.bind, pure, Except.pure]

lemma operands_f5rc {op first : Nat} (hr : (f5rc op idx count first).reference t idx = .ok (kind, text)) :
  (f5rc op idx count first).operands t = .error .noPart := by
 simp [operands, hr, bind, Except.bind, throw, throwThe, MonadExceptOf.throw, pure, Except.pure]

lemma regs_inj : regs m first = regs n first ↔ m = n := by
 refine ⟨fun h => ?_, congrArg (regs · first)⟩
 simpa [regs] using congrArg List.length h

lemma decode?_range {format : Format} (hr : format.range? bs = some (count, first, idx)) :
  if format = .f5rc then ∃ op, decode? format bs = some (f5rc op idx count first)
  else ∃ op, decode? format bs = some (f3rc op count idx first) := by
 unfold Format.range? at hr
 split at hr <;> cases hr <;> exact ⟨_, rfl⟩

/-- Of a range of registers, all but the last are listed before the reference, or the only one; a two-byte opcode
    lists nothing. So all are listed exactly if there is at most one, and the opcode has one byte. -/
theorem range_listed_iff (t : Tables) {format : Format} {bs : Bytes} {count first idx : Nat}
  (encoded : format.range? bs = some (count, first, idx)) :
  ∃ ins, decode? format bs = some ins ∧ ∀ kind text, ins.reference t idx = .ok (kind, text) ->
   let last := Operand.reference (0x100 + kind.code) idx text
   (ins.operands t = if format = .f5rc then .error .noPart
    else .ok (regs (if count = 1 then 1 else count - 1) first ++ [last])) ∧
   (ins.operands t = .ok (regs count first ++ [last]) ↔ count ≤ 1 ∧ format ≠ .f5rc) := by
 have hd := decode?_range encoded
 by_cases h5 : format = .f5rc
 · rw [if_pos h5] at hd
   obtain ⟨op, hd⟩ := hd
   refine ⟨_, hd, fun kind text hr => ?_⟩
   simp [operands_f5rc hr, h5]
 · rw [if_neg h5] at hd
   obtain ⟨op, hd⟩ := hd
   refine ⟨_, hd, fun kind text hr => ⟨by rw [operands_f3rc hr, if_neg h5], ?_⟩⟩
   rw [operands_f3rc hr, Except.ok.injEq, append_cancel_right_eq, regs_inj, and_iff_left h5]
   split <;> omega

def oneMethod : Tables :=
 ⟨fun _ => .ok "", fun _ => .ok "LA;", fun _ => .ok ("LA;", "I", "f"), fun _ => .ok ("LA;", "m", "()V")⟩

lemma reference_oneMethod (hk : ins.kind = .ok .method) (idx : Nat) :
  ins.reference oneMethod idx = .ok (.method, some "LA;->m()V") := by
 rw [reference, hk]
 rfl

/-- A call with one register, which is listed. -/
theorem one_register_listed : Format.f3rc.range? [0x74, 1, 0, 0, 5, 0] = some (1, 5, 0) ∧
  ∃ ins, decode? .f3rc [0x74, 1, 0, 0, 5, 0] = some ins ∧
   ins.operands oneMethod = .ok [.reg 5, .reference 0x100 0 (some "LA;->m()V")] := by
 have encoded : Format.f3rc.range? [0x74, 1, 0, 0, 5, 0] = some (1, 5, 0) := rfl
 obtain ⟨ins, hd, listed⟩ := range_listed_iff oneMethod encoded
 cases hd
 exact ⟨encoded, _, rfl, (listed _ _ (reference_oneMethod rfl 0)).2.mpr ⟨by decide, by decide⟩⟩

/-- A call with two registers lists one, and a call by a two-byte opcode lists none. -/
theorem last_register_missing :
  (f3rc 0x74 2 0 5).operands oneMethod = .ok [.reg 5, .reference 0x100 0 (some "LA;->m()V")] ∧
   (f5rc 0x22ff 0 1 5).operands oneMethod = .error .noPart :=
 ⟨operands_f3rc (reference_oneMethod rfl 0), operands_f5rc (reference_oneMethod rfl 0)⟩

end DexLens.Code
