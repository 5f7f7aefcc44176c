import DexLens.Proofs.Dex.Taking

/-! # Values as they are encoded

A value whose numbers of variable length are in shortest form is written back as it stood, whatever is nested in it.
-/

namespace DexLens.Dex

open Leb128 List Nat

/-- Read a number of variable length, if it is in shortest form. -/
def Reader.shortest (buf : Buffer) : Reader Nat := do
 let p <- get
 let n <- uleb buf
 let q <- get
 if Shortest (buf.extract p q).toList then return n else throw .badVal

/-- What one reader takes, the other takes as well, and the bytes are as is said of the result. -/
def Reader.Leaves (buf : Buffer) (r s : Reader α) (W : α -> Bytes -> Prop) : Prop :=
 ∀ p a q, r.run p = .ok (a, q) -> s.run p = .ok (a, q) ∧ p ≤ q ∧ W a (buf.extract p q).toList

namespace Reader

variable {α β : Type} {buf : Buffer}

lemma leaves_pure (ha : W a []) : Leaves buf (pure a) (pure a) W := by
 rintro p _ _ ⟨⟩
 exact ⟨rfl, le_rfl, by simpa using ha⟩

lemma Leaves.imp (hr : Leaves buf r s W) (hi : ∀ a bs, W a bs -> V a bs) : Leaves buf r s V :=
 fun p a q ha => ⟨(hr p a q ha).1, (hr p a q ha).2.1, hi a _ (hr p a q ha).2.2⟩

lemma leaves_throw : Leaves buf (throw e) s W := nofun

lemma leaves_of (x : Res α) : Leaves buf (liftM x) (liftM x) fun _ bs => bs = [] := by
 cases x with
 | error e => exact nofun
 | ok a => exact leaves_pure rfl

lemma Leaves.bind
  (hr : Leaves buf r r' W) (hf : ∀ a bs, W a bs -> Leaves buf (f a) (f' a) fun b cs => V b (bs ++ cs)) :
  Leaves buf (r >>= f) (r' >>= f') V := by
 intro p b q hb
 rw [StateT.run_bind] at hb ⊢
 cases ha : r.run p with
 | error e => rw [ha] at hb; cases hb
 | ok x =>
  obtain ⟨a, m⟩ := x
  rw [ha] at hb
  obtain ⟨same, hm, hw⟩ := hr p a m ha
  obtain ⟨next, hq, hv⟩ := hf a _ hw m b q hb
  refine ⟨by rw [same]; exact next, hm.trans hq, ?_⟩
  rwa [<- Array.toList_append, Array.extract_append_extract, min_eq_left hm, max_eq_right hq] at hv

lemma Leaves.ite [Decidable c] (hr : Leaves buf r r' W)
  (hs : Leaves buf s s' W) : Leaves buf (if c then r else s) (if c then r' else s') W := by
 split
 · exact hr
 · exact hs

lemma leaves_take (n : Nat) : Leaves buf (take buf n) (take buf n) fun bs cs => bs = cs ∧ bs.length ≤ n := by
 rintro p _ _ ⟨⟩
 exact ⟨rfl, le_add_right p n, taken_eq buf p n, by simp⟩

lemma leaves_u8 : Leaves buf (u8 buf) (u8 buf) fun n bs => bs = [UInt8.ofNat n] := by
 have one : Leaves buf (exactly buf 1) (exactly buf 1) fun bs cs => bs = cs ∧ bs.length = 1 := by
  refine (leaves_take 1).bind fun bs cs hb => ?_
  split
  · exact leaves_throw
  · exact leaves_pure ⟨by simpa using hb.1, by omega⟩
 refine one.bind fun bs cs hb => leaves_pure ?_
 obtain ⟨rfl, hl⟩ := hb
 obtain ⟨b, rfl⟩ := length_eq_one_iff.mp hl
 simp [Bytes.toNatLE]

lemma leaves_uleb : Leaves buf (uleb buf) (uleb buf) fun n bs => Shortest bs -> bs = writeU n := by
 intro p n q hr
 refine ⟨hr, ?_⟩
 cases hu : readUnsigned (buf.extract p (p + 5)).toList with
 | none =>
  unfold uleb at hr
  simp only [StateT.run_bind, StateT.run_get, pure_bind, taken_eq, hu] at hr
  cases hr
 | some x =>
  obtain ⟨taken, window, hl, hw⟩ := readWithin_eq_some hu
  have here : (buf.extract p (p + taken.length)).toList = taken := by
   have front := congrArg (List.take taken.length) window
   rw [<- taken_eq, take_take, take_left, min_eq_left (by omega)] at front
   rwa [<- taken_eq]
  rw [run_uleb window (window ▸ hu)] at hr
  cases hr
  rw [here]
  exact ⟨le_add_right _ _, fun hs => (hw hs).symm⟩

lemma leaves_shortest : Leaves buf (shortest buf) (uleb buf) fun n bs => bs = writeU n := by
 intro p n q hr
 change ((uleb buf).run p >>= fun x => (if Shortest (buf.extract p x.2).toList then pure x.1 else throw .badVal : Reader Nat).run x.2) = _ at hr
 cases hu : (uleb buf).run p with
 | error e => rw [hu] at hr; cases hr
 | ok x =>
  rw [hu] at hr
  change (ite _ _ _ : Reader Nat).run x.2 = _ at hr
  split at hr
  · cases hr
    obtain ⟨-, hl, hw⟩ := leaves_uleb p x.1 x.2 hu
    exact ⟨rfl, hl, hw ‹_›⟩
  · cases hr

end Reader

open Reader

namespace EncodedValue

lemma leaves_known {n head : Nat} {f : Nat -> Res α} {mk : Bytes -> α -> EncodedValue}
  (hm : ∀ bs a, (mk bs a).raw = UInt8.ofNat head :: bs) :
  Leaves buf (do let bs <- Reader.take buf n; return mk bs (<- f (decode bs)))
   (do let bs <- Reader.take buf n; return mk bs (<- f (decode bs))) fun v bs => v.raw = [UInt8.ofNat head] ++ bs := by
 refine (leaves_take n).bind fun bs cs hb => (leaves_of _).bind fun a ds hd => leaves_pure ?_
 simp [hm, hb.1, hd]

lemma leaves (buf : Buffer) (t : ValueTables) (fuel : Nat) :
  Leaves buf (readValue (shortest buf) buf t fuel) (readValue (uleb buf) buf t fuel) (·.raw = ·) ∧
  (∀ n, Leaves buf (readValues (shortest buf) buf t fuel n) (readValues (uleb buf) buf t fuel n)
   fun vs bs => vs.length = n ∧ rawValues vs = bs) ∧
  ∀ n, Leaves buf (readElements (shortest buf) buf t fuel n) (readElements (uleb buf) buf t fuel n)
   fun es bs => es.length = n ∧ rawElements es = bs := by
 induction fuel with
 | zero =>
  refine ⟨leaves_throw, fun n => ?_, fun n => ?_⟩ <;> cases n
  · exact leaves_pure ⟨rfl, rfl⟩
  · exact leaves_throw
  · exact leaves_pure ⟨rfl, rfl⟩
  · exact leaves_throw
 | succ fuel ih =>
  obtain ⟨hv, hvs, hes⟩ := ih
  refine ⟨?_, fun n => ?_, fun n => ?_⟩
  · refine leaves_u8.bind fun head bs hb => ?_
    subst hb
    refine .ite ?_ (.ite (leaves_known ?_) (.ite (leaves_known ?_) (.ite (leaves_known ?_) (.ite (leaves_known ?_)
     (.ite ?_ (.ite ?_ (.ite ?_ (.ite ?_ (.ite ?_ leaves_throw)))))))))
    · exact (leaves_take _).bind fun bs cs hb => leaves_pure (by simp [raw, hb.1])
    iterate 4 · simp [raw]
    · refine leaves_shortest.bind fun size as hn => (hvs size).bind fun vs bs hvs => leaves_pure ?_
      simp [raw, hn, hvs]
    · refine leaves_shortest.bind fun type as ht => leaves_shortest.bind fun size bs hn =>
       (hes size).bind fun es cs hes => leaves_pure ?_
      simp [raw, ht, hn, hes]
    · exact (leaves_take _).bind fun bs cs hb => leaves_pure (by simp [raw, hb.1])
    · exact leaves_pure (by simp [raw])
    · exact leaves_pure (by simp [raw])
  · cases n with
    | zero => exact leaves_pure ⟨rfl, rfl⟩
    | succ n =>
     refine hv.bind fun v bs hv => (hvs n).bind fun vs cs hvs => leaves_pure ?_
     simp [rawValues, hv, hvs]
  · cases n with
    | zero => exact leaves_pure ⟨rfl, rfl⟩
    | succ n =>
     refine leaves_shortest.bind fun name as hn => hv.bind fun v bs hv => (hes n).bind fun es cs hes => leaves_pure ?_
     simp [rawElements, hn, hv, hes]

lemma arrayLength_eq (vs : List EncodedValue) : arrayLength vs = (rawArray vs).length := by
 have all k : vs.foldl (· + ·.length) k = k + (rawValues vs).length := by
  induction vs generalizing k with
  | nil => rfl
  | cons v vs ih => rw [foldl_cons, ih, rawValues, length_append, <- add_assoc, length]
 rw [arrayLength, all, rawArray, length_append]

lemma annotationLength_eq (a : AnnotationBody) : a.length = a.raw.length := by
 obtain ⟨type, es⟩ := a
 have all k : es.foldl (fun n e => n + (writeU e.1).length + e.2.length) k = k + (rawElements es).length := by
  induction es generalizing k with
  | nil => rfl
  | cons e es ih =>
   rw [foldl_cons, ih]
   simp [rawElements, length, add_assoc]
 rw [AnnotationBody.length, all]
 exact length_append.symm

/-- Values, arrays and annotations, however deep they are nested: if all numbers of variable length are in shortest
    form, they are written as they stood, and their length is that of their bytes. -/
theorem encoded_reproduced (buf : Buffer) (t : ValueTables) (fuel : Nat) :
  Leaves buf (readValue (shortest buf) buf t fuel) (readValue (uleb buf) buf t fuel)
   (fun v bs => v.raw = bs ∧ v.length = bs.length) ∧
  Leaves buf (readArray buf (shortest buf) t fuel) (readArray buf (uleb buf) t fuel)
   (fun vs bs => rawArray vs = bs ∧ arrayLength vs = bs.length) ∧
  Leaves buf (readAnnotationBody buf (shortest buf) t fuel) (readAnnotationBody buf (uleb buf) t fuel)
   fun a bs => a.raw = bs ∧ a.length = bs.length := by
 obtain ⟨hv, hvs, hes⟩ := leaves buf t fuel
 refine ⟨hv.imp fun v bs hb => ⟨hb, congrArg _ hb⟩, ?_, ?_⟩
 · refine leaves_shortest.bind fun n as hn => (hvs n).imp fun vs bs hb => ?_
   have raw : rawArray vs = as ++ bs := by rw [rawArray, hb.1, hb.2, hn]
   exact ⟨raw, raw ▸ arrayLength_eq vs⟩
 · refine leaves_shortest.bind fun type as ht => leaves_shortest.bind fun n bs hn => (hes n).bind fun es cs hb => leaves_pure ?_
   have raw : AnnotationBody.raw ⟨type, es⟩ = as ++ (bs ++ (cs ++ [])) := by simp [AnnotationBody.raw, hb, ht, hn]
   exact ⟨raw, raw ▸ annotationLength_eq _⟩

/-- An annotation with one element, an array of a string, a negative number and a truth value. -/
def nested : Buffer := #[0x1d, 5, 1, 7, 0x1c, 3, 0x17, 0, 0x04, 0xff, 0x3f]

def nameless : ValueTables := ⟨fun _ => .ok "", fun _ => .ok "", fun _ => .ok default, fun _ => .ok default⟩

theorem nested_reproduced : ∃ v, (readValue (uleb nested) nested nameless 9).run 0 = .ok (v, 11) ∧
  v.raw = nested.toList ∧ v.length = 11 := by
 have ends : ((readValue (shortest nested) nested nameless 9).run 0).map Prod.snd = .ok 11 := rfl
 cases hv : (readValue (shortest nested) nested nameless 9).run 0 with
 | error e => rw [hv] at ends; cases ends
 | ok x =>
  obtain ⟨hr, -, hw, hl⟩ := (encoded_reproduced nested nameless 9).1 0 x.1 x.2 hv
  rw [hv] at ends
  rw [show x.2 = 11 from Except.ok.inj ends] at hr hw hl
  exact ⟨x.1, hr, hw.trans (by decide), hl.trans (by decide)⟩

/-! ## Integers -/

lemma decode_eq (bs : Bytes) : decode bs = ofDigits 256 (bs.map UInt8.toNat) := by
 induction bs with
 | nil => rfl
 | cons b bs ih => rw [map_cons, ofDigits_cons, <- ih]; rfl

lemma decode_signed_iff (front : Bytes) (last : UInt8) :
  (decode (front ++ [last]) : Int) = Int.bmod (decode (front ++ [last])) (256 ^ (front.length + 1)) ↔ last.toNat < 128 := by
 have low : decode front < 256 ^ front.length := by
  rw [decode_eq, <- length_map UInt8.toNat]
  refine ofDigits_lt_base_pow_length (by decide) fun d hd => ?_
  obtain ⟨b, -, rfl⟩ := mem_map.mp hd
  exact b.toNat_lt
 have sum : decode (front ++ [last]) = decode front + 256 ^ front.length * last.toNat := by
  simp only [decode_eq, map_append, ofDigits_append, length_map, map_cons, map_nil, ofDigits_singleton]
 have : last.toNat < 256 := last.toNat_lt
 rw [sum, Int.bmod_def, pow_succ]
 generalize 256 ^ front.length = m at low
 generalize decode front = n at low
 have small : n + m * last.toNat < m * 256 := by nlinarith
 have half : n + m * last.toNat < m * 128 ↔ last.toNat < 128 := by constructor <;> intro h <;> nlinarith
 rw [<- half, Int.emod_eq_of_lt (by positivity) (by exact_mod_cast small)]
 split <;> omega

/-- The bytes of an integer are taken from the lowest on, zero-extended. So an integer of a signed kind has its value
    in two's complement exactly if its last byte is below 128. -/
theorem integer_decoded_iff {buf : Buffer} (number : Reader Nat) (t : ValueTables) (fuel : Nat) {head last : UInt8} {front : Bytes}
  (size : front.length = head.toNat / 32) (kind : head.toNat % 32 ∈ [2, 3, 4, 6]) :
  let n := ofDigits 256 ((front ++ [last]).map UInt8.toNat)
  Takes buf (readValue number buf t (fuel + 1)) (head :: (front ++ [last])) (.number head.toNat (front ++ [last]) = ·) ∧
   decode (front ++ [last]) = n ∧
   ((decode (front ++ [last]) : Int) = Int.bmod n (256 ^ (front.length + 1)) ↔ last.toNat < 128) := by
 intro n
 have plain : decode (front ++ [last]) = n := decode_eq _
 refine ⟨?_, plain, plain ▸ decode_signed_iff front last⟩
 have bytes : Takes buf _ _ _ := takes_take (front ++ [last])
 rw [length_append, length_singleton, size] at bytes
 have first : Takes buf (u8 buf) [head] (head.toNat = ·) := takes_bytes [head]
 suffices ∀ n, head.toNat = n -> Takes buf _ (front ++ [last]) _ from first.bind this
 rintro _ rfl
 have signed : (decide (2 ≤ head.toNat % 32) && decide (head.toNat % 32 < 23)) = true := by
  revert kind
  generalize head.toNat % 32 = k
  simp
  omega
 rw [if_pos signed]
 refine bytes.last ?_
 rintro _ rfl
 rfl

/-- A positive number of two bytes has its value. -/
theorem two_bytes_decoded : (readValue (uleb #[0x22, 0x34, 0x12]) #[0x22, 0x34, 0x12] nameless 1).run 0 =
   .ok (.number 0x22 [0x34, 0x12], 3) ∧ (decode [0x34, 0x12] : Int) = Int.bmod (ofDigits 256 [0x34, 0x12]) (256 ^ 2) := by
 obtain ⟨taken, -, signed⟩ := @integer_decoded_iff #[0x22, 0x34, 0x12] (uleb #[0x22, 0x34, 0x12]) nameless 0
  0x22 0x12 [0x34] rfl (by decide)
 obtain ⟨_, hr, rfl⟩ := taken 0 [] rfl
 exact ⟨hr, signed.mpr (by decide)⟩

/-- The byte of minus one is read as 255. -/
theorem minus_one_unsigned : (readValue (uleb #[0x04, 0xff]) #[0x04, 0xff] nameless 1).run 0 = .ok (.number 0x04 [0xff], 2) ∧
  decode [0xff] = 255 ∧ Int.bmod (ofDigits 256 [0xff]) 256 = -1 := ⟨rfl, by decide, by decide⟩

end EncodedValue

end DexLens.Dex
