import DexLens.Dex.Save
import DexLens.Proofs.Dex.Taking
import DexLens.Proofs.Effect

/-! # The members of a class as they are stored

Each member is stored with the difference of its index to the one before it in its list. The indices are put
together when the lists are read; what is written back are the differences.
-/

namespace DexLens.Dex

open ClassData Effect Leb128 List Reader

/-- Members as they are stored: difference of the index and flags, and the offset of the code for methods. -/
structure MemberLists where
 (statics instances : List (UInt32 × UInt32))
 (directs virtuals : List (UInt32 × UInt32 × UInt32))
 few : statics.length < 2 ^ 32 ∧ instances.length < 2 ^ 32 ∧ directs.length < 2 ^ 32 ∧ virtuals.length < 2 ^ 32

namespace MemberLists

variable (x : MemberLists) {buf : Buffer} (f : UInt32 × UInt32) (m : UInt32 × UInt32 × UInt32)

def fieldBytes : Bytes := writeU f.1.toNat ++ writeU f.2.toNat

def methodBytes : Bytes := writeU m.1.toNat ++ (writeU m.2.1.toNat ++ writeU m.2.2.toNat)

def bytes : Bytes :=
 writeU x.statics.length ++ (writeU x.instances.length ++ (writeU x.directs.length ++
  (writeU x.virtuals.length ++ (x.statics.flatMap fieldBytes ++ (x.instances.flatMap fieldBytes ++
   (x.directs.flatMap methodBytes ++ x.virtuals.flatMap methodBytes))))))

/-- The sums of the first numbers, of one and of more. -/
def sums (ns : List UInt32) : List Nat := ((ns.map UInt32.toNat).scanl (· + ·) 0).tail

def indices : List (List Nat) :=
 [x.statics.map (·.1), x.instances.map (·.1), x.directs.map (·.1), x.virtuals.map (·.1)].map sums

def field : DexField := ⟨f.1.toNat, f.2.toNat, 0, none, none, none, none⟩

def method : DexMethod := ⟨m.1.toNat, m.2.1.toNat, m.2.2.toNat, 0, none, none, none, none, []⟩

/-- The class data that are read where these lists are stored. -/
def data (offset : Nat) : ClassData where
 offset := offset
 staticCount := x.statics.length
 directCount := x.directs.length
 fields := (DexField.number (x.statics.map field) ++ DexField.number (x.instances.map field)).toArray
 methods := (DexMethod.number (x.directs.map method) ++ DexMethod.number (x.virtuals.map method)).toArray

lemma takes_field : Takes buf (DexField.read buf) (fieldBytes f) (field f = ·) := by
 refine (takes_uleb f.1.toNat_lt).bind ?_
 rintro _ rfl
 refine (takes_uleb f.2.toNat_lt).last ?_
 rintro _ rfl
 rfl

lemma takes_method : Takes buf (DexMethod.read buf) (methodBytes m) (method m = ·) := by
 refine (takes_uleb m.1.toNat_lt).bind ?_
 rintro _ rfl
 refine (takes_uleb m.2.1.toNat_lt).bind ?_
 rintro _ rfl
 refine (takes_uleb m.2.2.toNat_lt).last ?_
 rintro _ rfl
 rfl

lemma takes_members : Takes buf (read buf) x.bytes fun c => ∃ offset, c = x.data offset := by
 obtain ⟨hs, hi, hd, hv⟩ := x.few
 refine takes_pos fun offset => ?_
 refine (takes_uleb hs).bind ?_
 rintro _ rfl
 refine (takes_uleb hi).bind ?_
 rintro _ rfl
 refine (takes_uleb hd).bind ?_
 rintro _ rfl
 refine (takes_uleb hv).bind ?_
 rintro _ rfl
 refine (Takes.many fun f _ => takes_field f).bind ?_
 rintro _ rfl
 refine (Takes.many fun f _ => takes_field f).bind ?_
 rintro _ rfl
 refine (Takes.many fun m _ => takes_method m).bind ?_
 rintro _ rfl
 refine (Takes.many fun m _ => takes_method m).last ?_
 rintro _ rfl
 exact ⟨offset, rfl⟩

/-! ## Numbering -/

/-- Numbering sets the indices to the running sums of the differences and changes nothing else. -/
lemma numbered_spec {set : α -> Nat -> α} (idx : α -> Nat) (g : α -> β)
  (hs : ∀ x n, idx (set x n) = n) (hk : ∀ x n, g (set x n) = g x) (prev : Nat) (xs : List α) :
  (numbered diff set prev xs).map idx = ((xs.map diff).scanl (· + ·) prev).tail ∧
   (numbered diff set prev xs).map g = xs.map g := by
 induction xs generalizing prev with
 | nil => exact ⟨rfl, rfl⟩
 | cons x xs ih =>
  obtain ⟨sums, kept⟩ := ih (diff x + prev)
  simp only [numbered, map_cons, hs, hk, sums, kept, scanl_cons, tail_cons, add_comm prev, and_true]
  cases xs <;> simp [scanl_cons]

lemma fields_numbered (fs) : (DexField.number (map field fs)).map (·.idx) = sums (fs.map (·.1)) ∧
  (DexField.number (map field fs)).map (·.raw) = fs.map fieldBytes :=
 (numbered_spec _ _ (by intros; rfl) (by intros; rfl) 0 (fs.map field)).imp
  (·.trans (by rw [sums, map_map, map_map]; rfl)) (·.trans map_map)

lemma methods_numbered (ms) : (DexMethod.number (map method ms)).map (·.idx) = sums (ms.map (·.1)) ∧
  (DexMethod.number (map method ms)).map (·.raw) = ms.map methodBytes :=
 (numbered_spec _ _ (by intros; rfl) (by intros; rfl) 0 (ms.map method)).imp
  (·.trans (by rw [sums, map_map, map_map]; rfl)) (·.trans (by simp [DexMethod.raw, method, methodBytes]))

lemma length_fields (fs) : (DexField.number (map field fs)).length = fs.length := by
 simpa using congrArg List.length (fields_numbered fs).2

lemma length_methods (ms) : (DexMethod.number (map method ms)).length = ms.length := by
 simpa using congrArg List.length (methods_numbered ms).2

end MemberLists

/-! ## Members that are written -/

lemma foldl_length (g : α -> Bytes) (xs : List α) (k : Nat) :
  xs.foldl (fun n x => n + (g x).length) k = k + (xs.map g).flatten.length := by
 induction xs generalizing k with
 | nil => rfl
 | cons x xs ih => rw [foldl_cons, ih, map_cons, flatten_cons, length_append, add_assoc]

namespace ClassData

variable (c : ClassData)

lemma length_eq : c.length = c.raw.length := by
 unfold length raw
 simp only [foldl_length, flatMap_def, foldl_cons, foldl_nil, length_append, zero_add]

/-- The indices in the four lists. -/
def indices : List (List Nat) :=
 let fs := c.fields.toList.map (·.idx)
 let ms := c.methods.toList.map (·.idx)
 [fs.take c.staticCount, fs.drop c.staticCount, ms.take c.directCount, ms.drop c.directCount]

/-- What was read of the members, without what was looked up for them. -/
def bare : ClassData :=
 { c with
   fields := c.fields.map fun f => { f with cls := none, name := none, type := none, init := none }
   methods := c.methods.map fun m => { m with cls := none, name := none, desc := none, code := none, notes := [] } }

lemma bare_indices : c.bare.indices = c.indices := by simp [indices, bare, Function.comp_def]

lemma bare_raw : c.bare.raw = c.raw := by
 simp [raw, bare, flatMap_map]
 rfl

/-- The code of each method stands where it stood when the method was read. -/
def CodeUnmoved (d : File) : Prop := ∀ m ∈ c.methods, ∀ code, m.code.bind (d.codeItems[·]?) = some code -> code.start = m.codeOff

lemma play_movedMembers (hc : c.CodeUnmoved d) : play (Save.movedMembers c) d = (.ok c, d) := by
 have same : c.methods.map (Save.movedMethod d.codeItems) = c.methods := by
  refine (Array.map_congr_left fun m hm => ?_).trans (Array.map_id' c.methods)
  unfold Save.movedMethod
  cases hb : m.code.bind (d.codeItems[·]?) with
  | none => rfl
  | some code => rw [Option.elim_some, hc m hm code hb]
 change (Except.ok { c with methods := c.methods.map (Save.movedMethod d.codeItems) }, d) = _
 rw [same]

end ClassData

namespace MemberLists

variable (x : MemberLists) (offset : Nat)

lemma data_raw : (x.data offset).raw = x.bytes := by
 simp [raw, data, bytes, flatMap_def, fields_numbered, methods_numbered, length_fields, length_methods]

lemma data_indices : (x.data offset).indices = x.indices := by
 simp only [ClassData.indices, data, map_append]
 rw [take_left', drop_left', take_left', drop_left'] <;>
  simp [indices, fields_numbered, methods_numbered, sums]

end MemberLists

/-- Members are read in exactly their bytes, and the indices of each list are the running sums of its differences,
    whatever else is looked up for them. As long as no code was moved, they are written as they were stored, in as many
    bytes as their length says. -/
theorem members_reproduced (x : MemberLists) {buf : Buffer} {p : Nat} {rest : Bytes}
  (here : buf.toList.drop p = x.bytes ++ rest) :
  ∃ c, (read buf).run p = .ok (c, p + x.bytes.length) ∧ ∀ c', c'.bare = c.bare -> c'.indices = x.indices ∧
   ∀ d, c'.CodeUnmoved d -> ∃ w, play (Save.movedMembers c') d = (.ok w, d) ∧ w.raw = x.bytes ∧
    w.length = x.bytes.length := by
 obtain ⟨_, hr, offset, rfl⟩ := x.takes_members p rest here
 refine ⟨_, hr, fun c' same => ?_⟩
 have written : c'.raw = x.bytes := by rw [<- c'.bare_raw, same, bare_raw, x.data_raw]
 refine ⟨by rw [<- c'.bare_indices, same, bare_indices, x.data_indices], fun d hu => ?_⟩
 exact ⟨c', c'.play_movedMembers hu, written, by rw [c'.length_eq, written]⟩

/-- Two static fields, a direct method with code and a virtual one without. -/
def fourMembers : MemberLists := ⟨[(3, 9), (200, 9)], [], [(5, 8, 300)], [(7, 1, 0)], by decide⟩

theorem four_members_reproduced : ∃ c, (read ([7] ++ (fourMembers.bytes ++ [1])).toArray).run 1 = .ok (c, 17) ∧
  c.indices = [[3, 203], [], [5], [7]] := by
 have size : fourMembers.bytes.length = 16 := by cbv
 have here : ([7] ++ (fourMembers.bytes ++ [1])).toArray.toList.drop 1 = fourMembers.bytes ++ [1] := rfl
 obtain ⟨c, hr, found⟩ := members_reproduced fourMembers here
 rw [size] at hr
 exact ⟨c, hr, (found c rfl).1⟩

end DexLens.Dex
