import DexLens.Dex.Item
import DexLens.Proofs.Dex.Taking

/-! # Texts of a file

The stored length of a text counts units of sixteen bits, but is read as one of bytes. Where no zero stands then,
the search for one goes on byte by byte, and each round counts into the size.
-/

namespace DexLens.Dex

open Leb128 List Nat Reader StringData

variable {buf : Buffer} {p q n : Nat} (u : UInt16) (us : List UInt16)

/-! ## The search for the end -/

/-- A text that is being read: the place of the next byte, the size and the bytes so far. -/
structure Search where
 (place size : Nat)
 data : Bytes

namespace Search

variable (s : Search) (k : Nat)

/-- As many bytes are taken as the length says, and one more. -/
def start (buf : Buffer) (q n : Nat) : Search := ⟨q + (n + 1), n, (buf.extract q (q + (n + 1))).toList⟩

/-- One more byte is asked for. Behind the end of the file there is none, and it counts all the same. -/
def next (buf : Buffer) : Search := ⟨s.place + 1, s.size + 1, s.data ++ (buf.extract s.place (s.place + 1)).toList⟩

/-- The search is over once a zero was taken. -/
def Closed : Prop := s.data.getLast? = some 0

/-- The search after some rounds. -/
def after (buf : Buffer) : Search := (·.next buf)^[k] s

/-- The search is over after so many rounds, and not before. -/
def Ends (buf : Buffer) : Prop := (s.after k buf).Closed ∧ ∀ j < k, ¬ (s.after j buf).Closed

lemma after_eq : s.after k buf = ⟨s.place + k, s.size + k, s.data ++ (buf.toList.drop s.place).take k⟩ := by
 induction k with
 | zero => simp [after]
 | succ k ih =>
  rw [after, Function.iterate_succ_apply', <- after, ih, next, take_add]
  simp [add_assoc, show s.place + (k + 1) - (s.place + k) = 1 by omega]

variable {s} {k}

lemma not_closed_after (hs : ¬ s.Closed) (hz : 0 ∉ (buf.toList.drop s.place).take k) : ¬ (s.after k buf).Closed := by
 rw [after_eq, Closed, getLast?_append]
 cases last : ((buf.toList.drop s.place).take k).getLast? with
 | none => exact hs
 | some b =>
  rintro ⟨⟩
  exact hz (mem_of_getLast? last)

/-- A zero that stands first behind a search ends it, in the round that comes to it. -/
lemma ends_of_drop (hs : ¬ s.Closed) (hd : buf.toList.drop s.place = front ++ 0 :: rest) (hz : 0 ∉ front) :
  s.Ends (front.length + 1) buf ∧
   s.after (front.length + 1) buf = ⟨s.place + (front.length + 1), s.size + (front.length + 1), s.data ++ (front ++ [0])⟩ := by
 have here : s.after (front.length + 1) buf = _ := after_eq ..
 rw [hd, take_append, take_of_length_le (by omega), Nat.add_sub_cancel_left, take_succ_cons, take_zero] at here
 refine ⟨⟨?_, fun j hj => not_closed_after hs ?_⟩, here⟩
 · rw [here, Closed, <- append_assoc, getLast?_concat]
 · rw [hd, take_append_of_le_length (by omega)]
   exact fun hm => hz (mem_of_mem_take hm)

/-- A search is never over exactly if no zero was taken at its start and none is left. -/
lemma never_closed_iff : (∀ k, ¬ (s.after k buf).Closed) ↔ ¬ s.Closed ∧ 0 ∉ buf.toList.drop s.place := by
 refine ⟨fun never => ⟨never 0, fun hz => ?_⟩, fun ⟨hs, hz⟩ k => not_closed_after hs fun hm => hz (mem_of_mem_take hm)⟩
 obtain ⟨front, rest, hf, hz⟩ := eq_append_cons_of_mem hz
 exact never _ (ends_of_drop (never 0) hf hz).1.1

lemma Ends.unique (hk : s.Ends k buf) (hj : s.Ends j buf) : k = j :=
 le_antisymm (not_lt.mp (hk.2 j · hj.1)) (not_lt.mp (hj.2 k · hk.1))

end Search

lemma throughZero_eq_none (hz : 0 ∉ bs) : throughZero bs = none := by
 induction bs with
 | nil => rfl
 | cons b bs ih =>
  rw [mem_cons, not_or] at hz
  rw [throughZero, if_neg (Ne.symm hz.1), ih hz.2, Option.map_none]

lemma throughZero_append (hz : 0 ∉ front) : throughZero (front ++ 0 :: rest) = some (front ++ [0]) := by
 induction front with
 | nil => rfl
 | cons b bs ih =>
  rw [mem_cons, not_or] at hz
  rw [cons_append, throughZero, if_neg (Ne.symm hz.1), ih hz.2, Option.map_some, cons_append]

namespace StringData

open Search

/-- A text that has a byte is read until its search is over. If that never happens, reading never ends. -/
lemma run_cases (hu : (uleb buf).run p = .ok (n, q)) : let s := start buf q n
  s.data = [] ∧ (read buf).run p = .error .beyond ∨
  (∃ k, s.Ends k buf ∧ (read buf).run p = .ok (⟨p, (s.after k buf).size, (s.after k buf).data⟩, (s.after k buf).place)) ∨
  s.data ≠ [] ∧ (∀ k, ¬ (s.after k buf).Closed) ∧ (read buf).run p = .error .endless := by
 intro s
 have taken : (take buf (n + 1)).run q = .ok (s.data, q + (n + 1)) := by
  rw [show s.data = _ from (taken_eq buf q (n + 1)).symm]
  rfl
 have there : (buf.extract (q + (n + 1)) buf.size).toList = buf.toList.drop s.place := by simp [s, start]
 unfold read
 rw [run_ok (run_pos p), run_ok hu, run_ok taken]
 split
 · exact .inl ⟨getLast?_eq_none_iff.mp ‹_›, rfl⟩
 · exact .inr (.inl ⟨0, ⟨‹_›, nofun⟩, rfl⟩)
 · rename_i last
   have hs : ¬ s.Closed := by simpa [Closed, last]
   rw [run_ok (run_pos _), there]
   by_cases hz : 0 ∈ buf.toList.drop s.place
   · obtain ⟨front, rest, hf, hz⟩ := eq_append_cons_of_mem hz
     obtain ⟨he, here⟩ := ends_of_drop hs hf hz
     rw [hf, throughZero_append hz]
     refine .inr (.inl ⟨_, he, ?_⟩)
     rw [here, show front.length + 1 = (front ++ [0]).length by simp]
     rfl
   · rw [throughZero_eq_none hz]
     refine .inr (.inr ⟨fun none => ?_, never_closed_iff.mpr ⟨hs, hz⟩, rfl⟩)
     simp [none] at last

lemma run_of_ends (hu : (uleb buf).run p = .ok (n, q)) (he : (start buf q n).Ends k buf) : let s := (start buf q n).after k buf
  (read buf).run p = .ok (⟨p, s.size, s.data⟩, s.place) := by
 rcases run_cases hu with ⟨none, -⟩ | ⟨j, hj, hr⟩ | ⟨-, never, -⟩
 · have hq : buf.size ≤ q := by simpa [start] using none
   exact absurd he.1 (by simp [Closed, after_eq, drop_eq_nil_of_le, start, hq.trans])
 · rwa [he.unique hj]
 · exact absurd he.1 (never k)

/-- Reading a text never ends exactly if its length can be read, a byte follows, and no round of the search takes a
    zero; that is, if none is the last byte taken at the start or comes after it. Otherwise the text is what the search
    has at its end, of no more bytes than are left in the file. -/
theorem text_endless_iff (buf : Buffer) (p : Nat) : ((read buf).run p = .error .endless ↔
   ∃ n q, (uleb buf).run p = .ok (n, q) ∧ q < buf.size ∧ ∀ k, ¬ ((start buf q n).after k buf).Closed) ∧
  ∀ n q, (uleb buf).run p = .ok (n, q) -> q < buf.size -> p ≤ q ∧
   ((∀ k, ¬ ((start buf q n).after k buf).Closed) ↔
    (buf.extract q (q + (n + 1))).toList.getLast? ≠ some 0 ∧ 0 ∉ buf.toList.drop (q + (n + 1))) ∧
   ∀ k, (start buf q n).Ends k buf -> let s := (start buf q n).after k buf
    (read buf).run p = .ok (⟨p, s.size, s.data⟩, s.place) ∧ q + s.data.length ≤ buf.size := by
 refine ⟨⟨fun hr => ?_, ?_⟩, fun n q hu hq => ⟨?_, never_closed_iff, fun k he => ⟨run_of_ends hu he, ?_⟩⟩⟩
 · obtain ⟨n, q, -, hu⟩ | hu := uleb_cases buf p
   · obtain ⟨-, hs⟩ | ⟨k, -, hs⟩ | ⟨hd, never, -⟩ := run_cases hu
     · exact nomatch hr.symm.trans hs
     · exact nomatch hr.symm.trans hs
     · refine ⟨n, q, hu, ?_, never⟩
       by_contra hq
       exact hd (by simp [start]; omega)
   · unfold read at hr
     rw [run_ok (run_pos p), StateT.run_bind, hu] at hr
     cases hr
 · rintro ⟨n, q, hu, hq, never⟩
   obtain ⟨none, -⟩ | ⟨k, he, -⟩ | ⟨-, -, hr⟩ := run_cases hu
   · simp [start] at none
     omega
   · exact absurd he.1 (never k)
   · exact hr
 · obtain ⟨_, _, hl, hv⟩ | hv := uleb_cases buf p
   · rw [hu] at hv
     cases hv
     exact hl
   · rw [hu] at hv
     cases hv
 · simp [after_eq, start]
   omega

/-- A text of two bytes, one more than it says, at the end of a file. -/
theorem cut_off_endless : (read #[1, 65, 66]).run 0 = .error .endless := rfl

end StringData

/-! ## Units -/

/-- A unit of a text in one, two or three bytes. The unit zero takes two, so that no byte is zero. -/
def unitBytes : Bytes :=
 if 0 < u.toNat ∧ u.toNat < 0x80 then [.ofNat u.toNat]
 else if u.toNat < 0x800 then [.ofNat (0xc0 + u.toNat / 64), .ofNat (0x80 + u.toNat % 64)]
 else [.ofNat (0xe0 + u.toNat / 4096), .ofNat (0x80 + u.toNat / 64 % 64), .ofNat (0x80 + u.toNat % 64)]

def textBytes : Bytes := us.flatMap unitBytes

/-- A text as it is stored. -/
def textItem : Bytes := writeU us.length ++ (textBytes us ++ [0])

lemma ofNat_ne_zero (low : 0 < m) (high : m < 256) : UInt8.ofNat m ≠ 0 := by
 intro zero
 have := congrArg UInt8.toNat zero
 rw [toNat_ofNat high] at this
 exact low.ne' this

lemma zero_notMem_unitBytes : 0 ∉ unitBytes u := by
 have hu := u.toNat_lt
 unfold unitBytes
 split_ifs <;> simp only [mem_cons, not_mem_nil, or_false, not_or, ne_comm (a := (0 : UInt8))] <;> and_intros <;>
  exact ofNat_ne_zero (by omega) (by omega)

lemma zero_notMem_textBytes : 0 ∉ textBytes us := by simp [textBytes, zero_notMem_unitBytes]

lemma length_unitBytes : 1 ≤ (unitBytes u).length ∧ ((unitBytes u).length = 1 ↔ 0 < u.toNat ∧ u.toNat < 0x80) := by
 unfold unitBytes
 split_ifs <;> simp [*]

lemma length_textBytes : us.length ≤ (textBytes us).length ∧
  ((textBytes us).length = us.length ↔ ∀ u ∈ us, 0 < u.toNat ∧ u.toNat < 0x80) := by
 induction us with
 | nil => simp [textBytes]
 | cons u us ih =>
  obtain ⟨hu, one⟩ := length_unitBytes u
  rw [forall_mem_cons, <- one, <- ih.2, show textBytes (u :: us) = unitBytes u ++ textBytes us from rfl]
  simp only [length_append, length_cons]
  omega

open Search in
/-- The search for the end of a stored text has all of its bytes in the end, and their number as its size. -/
lemma textItem_ends {us : List UInt16} (here : buf.toList.drop q = textBytes us ++ 0 :: rest) : let m := (textBytes us).length
  let s := start buf q us.length
  ∃ k, s.Ends k buf ∧ s.after k buf = ⟨q + (m + 1), m, textBytes us ++ [0]⟩ := by
 intro m s
 obtain ⟨le, -⟩ := length_textBytes us
 have hd : s.data = (textBytes us ++ 0 :: rest).take (us.length + 1) := by
  simp [s, start, extract_eq_take_drop, here]
 rcases le.eq_or_lt with same | lt
 · have all : s.data = textBytes us ++ [0] := by rw [hd, same, take_append]; simp
   refine ⟨0, ⟨by simp [Closed, Search.after, all], nofun⟩, ?_⟩
   change (⟨q + (us.length + 1), us.length, s.data⟩ : Search) = _
   rw [all, same]
 · rw [take_append_of_le_length lt] at hd
   have hs : ¬ s.Closed := fun hc =>
    zero_notMem_textBytes us (mem_of_mem_take (hd ▸ mem_of_getLast? hc))
   have there : buf.toList.drop (q + (us.length + 1)) = (textBytes us).drop (us.length + 1) ++ 0 :: rest := by
    rw [<- drop_drop, here, drop_append_of_le_length lt]
   obtain ⟨he, ha⟩ := ends_of_drop hs there fun hm => zero_notMem_textBytes us (mem_of_mem_drop hm)
   refine ⟨_, he, ?_⟩
   rw [ha, hd, <- append_assoc, take_append_drop, length_drop]
   simp only [s, start, Search.mk.injEq, and_true]
   omega

open Search StringData in
/-- Exactly the bytes of a stored text are taken, but its size is then their number. So the size is that of the units,
    and the text is written back as it was stored, exactly if each unit takes one byte. -/
theorem text_reproduced_iff {us : List UInt16} {rest : Bytes} (few : us.length < 2 ^ 32)
  (here : buf.toList.drop p = textItem us ++ rest) :
  ∃ t, (read buf).run p = .ok (t, p + (textItem us).length) ∧ t.data = textBytes us ++ [0] ∧
   t.utf16Size = (textBytes us).length ∧ (t.utf16Size = us.length ↔ ∀ u ∈ us, 0 < u.toNat ∧ u.toNat < 0x80) ∧
   (t.raw = textItem us ↔ ∀ u ∈ us, 0 < u.toNat ∧ u.toNat < 0x80) := by
 rw [textItem, append_assoc] at here
 obtain ⟨_, hu, rfl⟩ := takes_uleb few p _ here
 have next : buf.toList.drop (p + (writeU us.length).length) = textBytes us ++ 0 :: rest := by
  rw [<- drop_drop, here, drop_left]
  simp
 obtain ⟨k, he, hs⟩ := textItem_ends next
 have hr := run_of_ends hu he
 have hp : p + (textItem us).length = p + (writeU us.length).length + ((textBytes us).length + 1) := by
  simp [textItem, add_assoc]
 rw [hs] at hr
 refine ⟨_, hp ▸ hr, rfl, rfl, (length_textBytes us).2, ?_⟩
 rw [raw, textItem, append_left_inj, <- (length_textBytes us).2]
 exact ⟨writeU_inj, congrArg _⟩

/-- Two letters with something before and after them. -/
theorem letters_reproduced : textItem [72, 105] = [2, 72, 105, 0] ∧
  ∃ t, (read #[7, 2, 72, 105, 0, 9]).run 1 = .ok (t, 5) ∧ t.utf16Size = 2 ∧ t.raw = [2, 72, 105, 0] := by
 have stored : textItem [72, 105] = [2, 72, 105, 0] := by cbv
 obtain ⟨t, hr, -, -, size, raw⟩ :=
  @text_reproduced_iff #[7, 2, 72, 105, 0, 9] 1 [72, 105] [9] (by decide) (by rw [stored]; rfl)
 rw [stored] at hr raw
 exact ⟨stored, t, hr, size.mpr (by simp), raw.mpr (by simp)⟩

/-- A letter of two bytes counts as two units. -/
theorem accent_counts_twice : textItem [233] = [1, 0xc3, 0xa9, 0] ∧
  ((read #[1, 0xc3, 0xa9, 0]).run 0).map (fun x => (x.1.utf16Size, x.1.raw)) = .ok (2, [2, 0xc3, 0xa9, 0]) :=
 ⟨by cbv, by cbv⟩

end DexLens.Dex
