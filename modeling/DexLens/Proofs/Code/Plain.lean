import Mathlib
import DexLens.Analysis.Flow

/-! # What a sweep decodes

Decoding gives payloads, opcodes that are no instructions, cut-off bytes, and instructions as the tables of opcodes
list them. In code that is not optimized, names and numbers of opcodes agree on where control goes.
-/

namespace DexLens.Code

open Analysis.Flow Array Instr Opcode

/-- Does an instruction of this layout start with an opcode of two bytes? -/
def Format.isWide : Format -> Bool
 | f40sc | f41c | f52c | f5rc => true
 | _ => false

/-- Does an instruction of this layout refer to another place of the code? -/
def Format.jumps : Format -> Bool
 | f10t | f20t | f21t | f22t | f30t | f31t => true
 | _ => false

/-- The entry by which an opcode is decoded. Optimized code has more opcodes, of one byte and of two. -/
def Opcode.listed? (odex : Bool) (n : Nat) : Option Opcode :=
 if n < (if odex then 0xff else 0xe3) then main[n]? else (extended? n).or (if odex then optimized? n else none)

namespace Instr

/-- Is it `const-class/jumbo`? Its opcode `00ff` is a number below 256, and no name is listed under it. -/
def jumbo : Instr -> Bool
 | f41c op _ _ => op == 0xff
 | _ => false

/-- Do the bytes of the code make up the instruction? -/
def isResolved : Instr -> Bool
 | unresolved _ => false
 | _ => true

/-- The instruction has been decoded as its entry among the opcodes says. -/
structure Spelled (n : Nat) (info : Opcode) (ins : Instr) : Prop where
 op : ins.op = n
 name : ins.name = (Res.opt .noKey (find? n)).map (·.name)
 branch : ins.branch?.isSome = info.format.jumps
 payload : ins.isPayload = false
 jumboClass : ins.jumbo = (info.format == .f41c && n == 0xff)

lemma spelled_of_regs (hs : info.format.jumps = false) (ho : (info.format == .f41c) = false)
  (hd : (∃ bare, decode?.five bare (o :: p :: rest) = some ins) ∨ decode?.range (o :: p :: rest) = some ins) :
  ins.Spelled o.toNat info := by
 rcases hd with ⟨bare, hd⟩ | hd
 · unfold decode?.five at hd
   split at hd
   · rename_i same
     cases same
     cases hd
     exact ⟨rfl, rfl, hs.symm, rfl, by rw [ho]; rfl⟩
   · cases hd
 · unfold decode?.range at hd
   split at hd
   · rename_i same
     cases same
     cases hd
     exact ⟨rfl, rfl, hs.symm, rfl, by rw [ho]; rfl⟩
   · cases hd

lemma spelled_of_decode? (hd : decode? info.format (o :: p :: rest) = some ins) :
  ins.Spelled (if info.format.isWide then u16 o p else o.toNat) info := by
 obtain ⟨title, format, kind⟩ := info
 simp only at hd ⊢
 unfold decode? at hd
 split at hd
 case h_24 | h_25 | h_26 => exact spelled_of_regs rfl rfl (.inl ⟨_, hd⟩)
 case h_27 | h_28 | h_29 => exact spelled_of_regs rfl rfl (.inr hd)
 case h_35 => cases hd
 all_goals
  rename_i same
  cases same
  cases hd
  exact ⟨rfl, rfl, rfl, rfl, rfl⟩

/-- What decoding finds at the front of these bytes. -/
inductive Decoded (odex : Bool) : Bytes -> Instr -> Prop where
 | payload {o p rest ins} : u16 o p = 0x100 ∨ u16 o p = 0x200 ∨ u16 o p = 0x300 ->
   payload? (u16 o p) (o :: p :: rest) = some ins -> Decoded odex (o :: p :: rest) ins
 | fail {o p rest} : 0xe3 ≤ o.toNat -> Decoded odex (o :: p :: rest) (.fail o.toNat)
 | unresolved {bs} : Decoded odex bs (.unresolved bs)
 | listed {o p rest n info ins} : listed? odex n = some info ->
   decode? info.format (o :: p :: rest) = some ins -> ins.Spelled n info -> Decoded odex (o :: p :: rest) ins

end Instr

namespace Opcode

lemma size_main : main.size = 255 := by decide +kernel

def narrow : List (Opcode × Nat) := (main.toList.take 0xe3).zipIdx

lemma mem_narrow (hi : n < 0xe3) (hl : main[n]? = some info) : (info, n) ∈ narrow := by
 rw [narrow, List.mem_zipIdx_iff_getElem?, List.getElem?_take_of_lt hi, getElem?_toList]
 exact hl

lemma isWide_eq : (∀ info ∈ main, info.format.isWide = false) ∧ (∀ info ∈ extended, info.format.isWide = true) ∧
  ∀ info ∈ optimized, info.format.isWide = true := by decide +kernel

lemma extended?_some (hl : extended? n = some info) : n % 256 = 255 ∧ n / 256 < 39 ∧ info ∈ extended := by
 unfold extended? at hl
 split at hl
 · exact ⟨‹_›, (Array.getElem?_eq_some_iff.mp hl).1, mem_of_getElem? hl⟩
 · cases hl

lemma optimized?_some (hl : optimized? n = some info) : n % 256 = 255 ∧ 0xf2 ≤ n / 256 ∧ info ∈ optimized := by
 unfold optimized? at hl
 split at hl
 · rename_i ho
   simp only [Bool.and_eq_true, decide_eq_true_eq] at ho
   exact ⟨ho.1, ho.2, mem_of_getElem? hl⟩
 · cases hl

lemma listed?_two_byte (hl : extended? n = some info ∨ extended? n = none ∧ odex = true ∧ optimized? n = some info) :
  listed? odex n = some info ∧ info.format.isWide = true := by
 have ho : n % 256 = 255 ∧ info.format.isWide = true := by
  rcases hl with hl | ⟨-, -, hl⟩
  · exact ⟨(extended?_some hl).1, isWide_eq.2.1 _ (extended?_some hl).2.2⟩
  · exact ⟨(optimized?_some hl).1, isWide_eq.2.2 _ (optimized?_some hl).2.2⟩
 refine ⟨?_, ho.2⟩
 rw [listed?, if_neg (by split <;> omega)]
 rcases hl with hl | ⟨hn, rfl, hl⟩
 · rw [hl, Option.some_or]
 · rw [hn, Option.none_or, if_pos rfl, hl]

end Opcode

namespace Sweep

open Instr

lemma single_decoded (odex : Bool) (bs : Bytes) : (single odex bs).Decoded odex bs := by
 unfold single
 split
 · rename_i o p rest
   split
   · rename_i ho
     simp only [Bool.and_eq_true, decide_eq_true_eq] at ho
     exact .fail ho.1.2
   · rename_i ho
     split
     · rename_i info hl
       have hi : o.toNat < (if odex then 0xff else 0xe3) := by
        have hi := (Array.getElem?_eq_some_iff.mp hl).1
        rw [size_main] at hi
        cases odex <;> simp at ho ⊢ <;> omega
       cases hd : decode? info.format (o :: p :: rest) with
       | none => exact .unresolved
       | some ins =>
        have hs := spelled_of_decode? hd
        rw [isWide_eq.1 _ (mem_of_getElem? hl), if_neg Bool.false_ne_true] at hs
        exact .listed (by rw [listed?, if_pos hi, hl]) hd hs
     · rename_i hl
       have ht := getElem?_eq_none_iff.mp hl
       rw [size_main] at ht
       exact .fail (by omega)
 · exact .unresolved

lemma isPayload_of_payload? {op bs ins} (hd : payload? op bs = some ins) : ins.isPayload = true := by
 unfold payload? at hd
 split at hd
 · unfold packedSwitch? at hd
   split at hd
   · obtain ⟨_, -, rfl⟩ := Option.map_eq_some_iff.mp hd
     rfl
   · cases hd
 · split at hd
   · unfold sparseSwitch? at hd
     split at hd
     · simp only [bind, pure, Option.bind_eq_some_iff, Option.some.injEq] at hd
       obtain ⟨_, -, _, -, rfl⟩ := hd
       rfl
     · cases hd
   · unfold arrayData? at hd
     split at hd
     · cases hd
       rfl
     · cases hd

lemma decoded_of_two_byte (hl : extended? (u16 o p) = some info ∨
   extended? (u16 o p) = none ∧ odex = true ∧ optimized? (u16 o p) = some info)
  (hd : decode? info.format (o :: p :: rest) = some ins) : ins.Decoded odex (o :: p :: rest) := by
 obtain ⟨he, hw⟩ := listed?_two_byte hl
 have hs := spelled_of_decode? hd
 rw [hw] at hs
 exact .listed he hd hs

lemma wide_decoded (odex : Bool) (bs : Bytes) :
  (∃ found, wide odex bs = .ok found ∧ ∀ ins ∈ found, ins.Decoded odex bs) ∨ odex = true ∧ wide odex bs = .error .cutOff := by
 unfold wide
 split
 · rename_i o p rest
   simp only
   split
   · rename_i op
     exact .inl ⟨_, rfl, fun ins hd => .payload (by simpa [or_assoc] using op) hd⟩
   · cases he : extended? (u16 o p) with
     | some info => exact .inl ⟨_, rfl, fun ins hd => decoded_of_two_byte (.inl he) hd⟩
     | none =>
      cases odex with
      | false => exact .inl ⟨none, rfl, nofun⟩
      | true =>
       cases ho : optimized? (u16 o p) with
       | none => exact .inl ⟨none, by simp, nofun⟩
       | some info =>
        cases hd : decode? info.format (o :: p :: rest) with
        | none => exact .inr ⟨rfl, by simp [hd, Res.opt, Except.map]⟩
        | some ins =>
         refine .inl ⟨some ins, by simp [hd, Res.opt, Except.map], ?_⟩
         rintro _ ⟨⟩
         exact decoded_of_two_byte (.inr ⟨he, rfl, ho⟩) hd
 · exact .inl ⟨none, rfl, nofun⟩

lemma decoded_or_cutOff (odex : Bool) (left : Nat) (bs : Bytes) :
  (∃ ins, next odex left bs = .ok ins ∧ ins.Decoded odex bs) ∨ odex = true ∧ next odex left bs = .error .cutOff := by
 unfold next
 split
 · rename_i o rest
   split
   · rcases wide_decoded odex (o :: rest) with ⟨found, hw, hd⟩ | ⟨ho, hw⟩
     · rw [hw]
       cases found with
       | none => exact .inl ⟨_, rfl, single_decoded odex _⟩
       | some ins => exact .inl ⟨ins, rfl, hd ins rfl⟩
     · rw [hw]
       exact .inr ⟨ho, rfl⟩
   · exact .inl ⟨_, rfl, single_decoded odex _⟩
 · exact .inl ⟨_, rfl, .unresolved⟩

lemma next_decoded (hn : next odex left bs = .ok ins) : ins.Decoded odex bs := by
 rcases decoded_or_cutOff odex left bs with ⟨_, hd, here⟩ | ⟨-, hd⟩
 · cases hn.symm.trans hd
   exact here
 · cases hn.symm.trans hd

lemma run_decoded (odex : Bool) (fuel left : Nat) (bs : Bytes) : (odex = false -> (run odex fuel left bs).2 = none) ∧
   ∀ ins ∈ (run odex fuel left bs).1, ∃ here, ins.Decoded odex here := by
 induction fuel generalizing left bs with
 | zero => exact ⟨fun _ => rfl, nofun⟩
 | succ fuel ih =>
  unfold run
  split
  · exact ⟨fun _ => rfl, nofun⟩
  · rcases decoded_or_cutOff odex left bs with ⟨ins, hn, hd⟩ | ⟨rfl, hn⟩
    · obtain ⟨ends, hi⟩ := ih (left - ins.length) (bs.drop ins.length)
      simp only [hn]
      exact ⟨ends, List.forall_mem_cons.mpr ⟨⟨bs, hd⟩, hi⟩⟩
    · rw [hn]
      exact ⟨nofun, nofun⟩

end Sweep

section

variable (odex : Bool) (units : Nat) (code : Bytes) (start : Nat)

lemma sweep_decoded : (odex = false -> (sweep odex units code start).2 = none) ∧
   ∀ ins ∈ (sweep odex units code start).1, ∃ here, ins.Decoded odex here :=
 Sweep.run_decoded odex _ _ _

/-- The instructions that plain code can hold. -/
def Instr.Plain (ins : Instr) : Prop := ∃ here, ins.Decoded false here

lemma sweep_plain : (sweep false units code start).2 = none ∧ ∀ ins ∈ (sweep false units code start).1, ins.Plain :=
 (sweep_decoded false units code start).imp_left (· rfl)

end

/-! ## Where control goes -/

/-- To the instruction after it, to no other one, to the place it names, to one of these two, or to the one after it
    or a place that its payload names. -/
inductive Exit where
 | falls | leaves | jumps | branches | selects
 deriving DecidableEq

namespace Exit

/-- Mnemonics tell how control leaves. -/
def ofName (name : String) : Exit :=
 if Text.startsWith name "return" || Text.startsWith name "throw" then .leaves
 else if Text.startsWith name "goto" then .jumps
 else if Text.startsWith name "if-" then .branches
 else if name == "packed-switch" || name == "sparse-switch" then .selects
 else .falls

/-- So do the numbers of opcodes. -/
def ofOpcode (op : Int) : Exit :=
 if op = 0x27 || (0x0e ≤ op && op ≤ 0x11) then .leaves
 else if 0x28 ≤ op && op ≤ 0x2a then .jumps
 else if 0x32 ≤ op && op ≤ 0x3d then .branches
 else if op = 0x2b || op = 0x2c then .selects
 else .falls

lemma ofOpcode_outside {op} (ho : op < 0 ∨ 0xe3 ≤ op) : ofOpcode op = .falls := by
 unfold ofOpcode
 simp only [Bool.or_eq_true, Bool.and_eq_true, decide_eq_true_eq]
 repeat rw [if_neg (by omega)]

/-- What the table says of an opcode agrees with its number. -/
structure Agrees (n : Nat) (info : Opcode) : Prop where
 exit : ofName info.name = ofOpcode n
 branch : isBranchName info.name = decide (ofOpcode n ≠ .falls)
 place : ofOpcode n = .jumps ∨ ofOpcode n = .branches ∨ ofOpcode n = .selects -> info.format.jumps = true

lemma agrees_plain (hl : listed? false n = some info) : Agrees n info := by
 have one : ∀ x ∈ narrow, ofName x.1.name = ofOpcode x.2 ∧ isBranchName x.1.name = decide (ofOpcode x.2 ≠ .falls) ∧
   (ofOpcode x.2 = .jumps ∨ ofOpcode x.2 = .branches ∨ ofOpcode x.2 = .selects -> x.1.format.jumps = true) := by
  decide +kernel
 have two : ∀ info ∈ extended, ofName info.name = .falls ∧ isBranchName info.name = false := by decide +kernel
 simp only [listed?, Bool.false_eq_true, if_false, Option.or_none] at hl
 split at hl
 · obtain ⟨exit, hb, hp⟩ := one _ (mem_narrow ‹_› hl)
   exact ⟨exit, hb, hp⟩
 · rename_i ho
   have hf : ofOpcode n = .falls := ofOpcode_outside (by omega)
   obtain ⟨exit, hb⟩ := two info (extended?_some hl).2.2
   exact ⟨exit.trans hf.symm, by simp [hb, hf], by simp [hf]⟩

end Exit

lemma Opcode.find?_listed (hl : listed? odex n = some info) : find? n = if n = 0xff then none else some info := by
 unfold listed? at hl
 unfold find?
 by_cases hf : n = 0xff
 · rw [if_neg (by omega), if_pos hf, hf]
   exact getElem?_eq_none_iff.mpr (by rw [size_main])
 rw [if_neg hf]
 by_cases one : n < (if odex then 0xff else 0xe3)
 · rw [if_pos one] at hl
   rw [if_neg (by split at one <;> omega), hl]
 · rw [if_neg one, Option.or_eq_some_iff] at hl
   rcases hl with hl | ⟨-, hl⟩
   · obtain ⟨hm, hd, -⟩ := extended?_some hl
     rw [if_pos (by omega), if_neg (by omega), hl]
   · split at hl
     · obtain ⟨hm, hd, -⟩ := optimized?_some hl
       rw [if_pos (by omega), if_pos (by omega), hl]
     · cases hl

namespace Instr

variable {ins : Instr}

/-- How control leaves an instruction, by its name. -/
def exit (ins : Instr) : Exit :=
 match ins.name with
 | .ok name => .ofName name
 | .error _ => .falls

/-- An instruction of plain code has a name that tells what its opcode tells, unless it is
    `const-class/jumbo`. -/
structure Named (ins : Instr) : Prop where
 exit : ins.exit = .ofOpcode ins.op
 name : ins.jumbo = false -> ∃ name, ins.name = .ok name ∧ isBranchName name = decide (ins.exit ≠ .falls)
 nameless : ins.jumbo = true -> ins.name = .error .noKey
 place : ins.exit = .jumps ∨ ins.exit = .branches ∨ ins.exit = .selects -> ins.branch?.isSome = true

lemma Spelled.named (hl : listed? false n = some info) (hs : ins.Spelled n info) : ins.Named := by
 have name := hs.name
 rw [find?_listed hl] at name
 have ha := Exit.agrees_plain hl
 by_cases hf : n = 0xff
 · rw [if_pos hf] at name
   have exit : ins.exit = .falls := by rw [exit, name]; rfl
   have hi : ins.jumbo = true := by
    rw [hf] at hl
    have he : info.format = .f41c := by
     cases hl
     rfl
    rw [hs.jumboClass, hf, he]
    rfl
   refine ⟨?_, ?_, fun _ => name, ?_⟩
   · rw [exit, hs.op, Exit.ofOpcode_outside (by omega)]
   · simp [hi]
   · simp [exit]
 · rw [if_neg hf] at name
   have exit : ins.exit = .ofOpcode n := by
    rw [exit, name]
    exact ha.exit
   refine ⟨by rw [exit, hs.op], fun _ => ⟨info.name, name, ?_⟩, ?_, ?_⟩
   · rw [exit]
     exact ha.branch
   · simp [hs.jumboClass, hf]
   · rw [exit, hs.branch]
     exact ha.place

/-- The names that are no mnemonics: those of payloads and of bytes that are no instructions. -/
lemma ordinary_names : ∀ name ∈ ["packed-switch-payload", "sparse-switch-payload", "fill-array-data-payload",
  "AG:invalid_instruction", "unresolved"],
  Exit.ofName name = .falls ∧ isBranchName name = false := by decide +kernel

lemma named_of_falls {name : String} (hf : ins.name = .ok name)
  (ho : Exit.ofName name = .falls ∧ isBranchName name = false) (hp : Exit.ofOpcode ins.op = .falls)
  (ht : ins.jumbo = false) : ins.Named := by
 have exit : ins.exit = .falls := by
  rw [exit, hf]
  exact ho.1
 exact ⟨exit.trans hp.symm, fun _ => ⟨name, hf, by simp [ho.2, exit]⟩, by simp [ht], by simp [exit]⟩

lemma Plain.named (hp : ins.Plain) : ins.Named := by
 obtain ⟨here, hd⟩ := hp
 cases hd with
 | payload op hd =>
  have hi := Sweep.isPayload_of_payload? hd
  cases ins with
  | packedSwitch | sparseSwitch | arrayData =>
   exact named_of_falls rfl (ordinary_names _ (by simp)) (Exit.ofOpcode_outside (by simp [Instr.op])) rfl
  | _ => cases hi
 | fail ho =>
  exact named_of_falls rfl (ordinary_names _ (by simp))
   (Exit.ofOpcode_outside (.inr (Int.ofNat_le.mpr ho))) rfl
 | unresolved => exact named_of_falls rfl (ordinary_names _ (by simp)) (Exit.ofOpcode_outside (by simp [op])) rfl
 | listed hl _ hs => exact hs.named hl

end Instr

end DexLens.Code
