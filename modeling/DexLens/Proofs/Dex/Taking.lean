import DexLens.Dex.Value
import DexLens.Proofs.Leb128

/-! # What a reader takes -/

namespace DexLens

open Bytes Leb128 List StateT

@[simp] lemma Bytes.length_ofNatLE (k n : Nat) : (ofNatLE k n).length = k := by
 induction k generalizing n with
 | zero => rfl
 | succ k ih => simp [ofNatLE, ih]

lemma Bytes.toNatLE_ofNatLE (hn : n < 256 ^ k) : toNatLE (ofNatLE k n) = n := by
 induction k generalizing n with
 | zero => exact (Nat.lt_one_iff.mp hn).symm
 | succ k ih =>
  have high : n / 256 < 256 ^ k := Nat.div_lt_of_lt_mul (by rwa [pow_succ, mul_comm] at hn)
  simp [ofNatLE, toNatLE, ih high, Nat.mod_add_div]

namespace Dex

/-- Wherever these bytes stand in the buffer, the reader goes over them and makes of them what is said. -/
def Reader.Takes (buf : Buffer) (r : Reader α) (bs : Bytes) (P : α -> Prop) : Prop :=
 ∀ p rest, buf.toList.drop p = bs ++ rest -> ∃ a, r.run p = .ok (a, p + bs.length) ∧ P a

namespace Reader

variable {α β : Type} {buf : Buffer}

lemma run_ok (hm : m.run p = .ok (a, q)) (f : α -> Reader β) : (m >>= f).run p = (f a).run q := by
 rw [run_bind, hm]
 rfl

lemma run_pos (p : Nat) : pos.run p = .ok (p, p) := rfl

lemma run_seek (p q : Nat) : (seek p).run q = .ok ((), p) := rfl

lemma takes_pure (ha : P a) : Takes buf (pure a) [] P := fun _ _ _ => ⟨a, rfl, ha⟩

lemma takes_pos (hf : ∀ p, Takes buf (f p) bs P) : Takes buf (pos >>= f) bs P := fun p rest here => hf p p rest here

namespace Takes

variable {m : Reader α} {bs cs : Bytes} {P : α -> Prop} {Q : β -> Prop}

lemma bind (hm : Takes buf m bs P) (hf : ∀ a, P a -> Takes buf (f a) cs Q) : Takes buf (m >>= f) (bs ++ cs) Q := by
 intro p rest here
 rw [append_assoc] at here
 obtain ⟨a, first, ha⟩ := hm p _ here
 have next : buf.toList.drop (p + bs.length) = cs ++ rest := by rw [<- drop_drop, here, drop_left]
 obtain ⟨b, second, hb⟩ := hf a ha _ _ next
 refine ⟨b, ?_, hb⟩
 rwa [run_ok first, length_append, <- add_assoc]

lemma last {g : α -> β} (hm : Takes buf m bs P) (hg : ∀ a, P a -> Q (g a)) : Takes buf (m >>= fun a => pure (g a)) bs Q := by
 intro p rest here
 obtain ⟨a, hr, ha⟩ := hm p rest here
 refine ⟨g a, ?_, hg a ha⟩
 rw [run_ok hr]
 rfl

lemma run (hm : Takes buf m bs (a = ·)) (here : buf.toList.drop p = bs ++ rest) : ∃ q, m.run p = .ok (a, q) := by
 obtain ⟨_, hr, rfl⟩ := hm p rest here
 exact ⟨_, hr⟩

lemma many {xs : List γ} (each : ∀ x ∈ xs, Takes buf m (enc x) (f x = ·)) :
  Takes buf (Reader.many m xs.length) (xs.flatMap enc) (xs.map f = ·) := by
 induction xs with
 | nil => exact takes_pure rfl
 | cons x xs ih =>
  obtain ⟨hf, rest⟩ := forall_mem_cons.mp each
  exact hf.bind fun _ first => (ih rest).last fun _ more => by rw [map_cons, first, more]

end Takes

lemma taken_eq (buf : Buffer) (p n : Nat) : (buf.toList.drop p).take n = (buf.extract p (p + n)).toList := by
 rw [Array.toList_extract, extract_eq_take_drop, Nat.add_sub_cancel_left]

lemma takes_take (bs : Bytes) : Takes buf (take buf bs.length) bs (bs = ·) := by
 intro p rest here
 refine ⟨_, rfl, ?_⟩
 simp [here]

lemma takes_exactly (bs : Bytes) : Takes buf (exactly buf bs.length) bs (bs = ·) := by
 intro p rest here
 obtain ⟨_, hr, rfl⟩ := takes_take bs p rest here
 rw [exactly, run_bind, hr]
 simp [bind, Except.bind]
 rfl

lemma takes_bytes (bs : Bytes) : Takes buf (unsigned buf bs.length) bs (bs.toNatLE = ·) := by
 refine (takes_exactly bs).last ?_
 rintro _ rfl
 rfl

lemma takes_unsigned (hn : n < 256 ^ k) : Takes buf (unsigned buf k) (ofNatLE k n) (n = ·) := by
 have hb : Takes buf _ _ _ := takes_bytes (ofNatLE k n)
 rwa [length_ofNatLE, toNatLE_ofNatLE hn] at hb

lemma run_uleb (window : (buf.extract p (p + 5)).toList = taken ++ rest)
  (hr : readUnsigned (taken ++ rest) = some (n, rest)) : (uleb buf).run p = .ok (n, p + taken.length) := by
 unfold uleb
 simp only [run_bind, run_get, pure_bind, taken_eq, window, hr]
 simp
 rfl

lemma uleb_cases (buf : Buffer) (p : Nat) :
  (∃ n q, p ≤ q ∧ (uleb buf).run p = .ok (n, q)) ∨ (uleb buf).run p = .error .badKind := by
 unfold uleb
 simp only [run_bind, run_get, pure_bind]
 split
 · exact .inl ⟨_, _, Nat.le_add_right .., rfl⟩
 · exact .inr rfl

lemma takes_uleb (hn : n < 2 ^ 32) : Takes buf (uleb buf) (writeU n) (n = ·) := by
 intro p rest here
 obtain ⟨hr, hl⟩ := readWithin_writeU 4 (hn.trans (by decide)) (rest.take (5 - (writeU n).length))
 have window : (buf.extract p (p + 5)).toList = writeU n ++ rest.take (5 - (writeU n).length) := by
  rw [<- taken_eq, here, take_append, take_of_length_le (by omega)]
 exact ⟨n, run_uleb window hr, rfl⟩

end Reader

end Dex

end DexLens
