import DexLens.Proofs.Effect
import DexLens.Proofs.Source.Effects
import DexLens.Source.Lower

/-! # Registers read and written

What the statement for an instruction tells about registers is what the instruction does to them, except for arrays
filled when they are made, caught exceptions and results of calls that write to their object.
-/

namespace DexLens.Code.Instr

/-- The registers that an instruction reads, the first of each pair. -/
def reads : Instr -> List Int
 | f12x op a b | f22x op a b | f32x op a b => if op < 0xb0 then [b] else [a, b]
 | f11x op a => if op ≤ 0x0d then [] else [a]
 | f21c op a _ | f31c op a _ => if op < 0x67 then [] else [a]
 | f22c op a b _ => if op < 0x59 then [b] else [b, a]
 | f23x op a b c => if 0x4b ≤ op ∧ op < 0x90 then [b, c, a] else [b, c]
 | f22s _ _ b _ | f22b _ _ b _ => [b]
 | f22t _ a b _ => [a, b]
 | f21t _ a _ | f31t _ a _ => [a]
 | f35c _ count _ c d e f g _ => ([c, d, e, f, g] : List Int).take count
 | f3rc _ count _ first => (List.range count).map fun (i : Nat) => (first + i : Int)
 | _ => []

def isCall : Instr -> Bool
 | f35c op _ _ _ _ _ _ _ _ => op ≠ 0x24
 | f3rc op _ _ _ => op ≠ 0x25
 | _ => false

end DexLens.Code.Instr

namespace DexLens.Source

open Code Dex List Lookup Term Leaf

@[simp] lemma mem_uniq : x ∈ uniq ns ↔ x ∈ ns := by simp [uniq]

namespace Term

lemma operand_put (xs : List (Name × Term)) (n k : Name) (t : Term) :
  operand (put xs n t) k = if k = n then t else operand xs k := by
 rw [operand, put, revise, write xs n (fun _ => t) t k]
 split_ifs with hk
 · cases xs.lookup n <;> rfl
 · rfl

lemma operand_concat (ls : List Leaf) (l : Leaf) : operand (table (ls ++ [l])) l.name = leaf l := by
 rw [table, foldl_concat, operand_put, if_pos rfl]

lemma operand_table (hl : l ∈ ls) (same : ∀ m ∈ ls, m.name = l.name -> m = l) :
  operand (table ls) l.name = leaf l := by
 induction ls using reverseRecOn with
 | nil => simp at hl
 | append_singleton ls m ih =>
  rw [forall_mem_append, forall_mem_singleton] at same
  rw [table, foldl_concat, operand_put]
  split_ifs with hn
  · rw [same.2 hn.symm]
  · refine ih ?_ same.1
    obtain hl | hl := mem_append.mp hl
    · exact hl
    · exact absurd (congrArg name (mem_singleton.mp hl)) hn

@[simp] lemma of_usedAll (xs : List (Name × Term)) (n : Name) : (usedAll xs).of n = (operand xs n).used :=
 of_all rfl (fun _ _ _ => rfl) rfl xs

end Term

namespace Frame

variable (f : Frame)

def IsThis (r : Int) : Prop := ∃ t, f.this? = some (r, t)

@[simp] lemma name_leaf (r : Int) : (f.leaf r).name = .reg r := by
 unfold leaf leaf.other
 split
 · split_ifs
   · rfl
   · split <;> rfl
 · split <;> rfl

@[simp] lemma mem_used_leaf (hr : ¬ f.IsThis r) : .reg r ∈ (f.leaf k).used ↔ r = k := by
 have other : .reg r ∈ (leaf.other f k).used ↔ r = k := by
  unfold leaf.other
  split <;> simp [Leaf.used]
 unfold leaf
 split
 · next n t ht =>
   split_ifs with hn
   · exact ⟨nofun, fun hk => absurd ⟨t, hk ▸ hn ▸ ht⟩ hr⟩
   · exact other
 · exact other

lemma operand_leaves (k : Int) (hk : f.leaf k ∈ ls)
  (hl : ∀ l ∈ ls, l.name = .reg k -> l = f.leaf k) : operand (table ls) (.reg k) = .leaf (f.leaf k) := by
 rw [<- f.name_leaf k] at hl ⊢
 exact operand_table hk hl

end Frame

section

variable {d : File} {f : Frame} {payload : Option Instr} {st st' : Results} {op idx : Nat} {a b c : Int}
 {ins : Instr} {s : Statement}

attribute [local simp] Statement.target? Statement.used Term.used onLeaves actOn Op.used

/-- What a statement tells about the registers that do not hold the object itself. -/
@[local simp] def Statement.Tells (f : Frame) (s : Statement) (dst : Option Name) (rs : List Int) : Prop :=
 s.target? = dst ∧ ∀ r, ¬ f.IsThis r -> (.reg r ∈ s.used ↔ r ∈ rs)

lemma tells_two : (lowerTwo op (f.leaf a) (f.leaf b)).Tells f (some (.reg a))
  (if op < 0xb0 then [b] else [a, b]) := by
 unfold lowerTwo
 split_ifs <;> first | omega | simp +contextual [f.operand_leaves]

lemma tells_three : (lowerThree op (f.leaf a) (f.leaf b) (f.leaf c)).Tells f
  (if 0x4b ≤ op ∧ op < 0x90 then none else some (.reg a))
  (if 0x4b ≤ op ∧ op < 0x90 then [b, c, a] else [b, c]) := by
 unfold lowerThree
 split_ifs <;> first | omega | simp +contextual [f.operand_leaves]

/-- The right side of an operator is fixed: a number or a class. -/
lemma tells_fixed (hn : l.name = .made t) (hu : l.used = []) (op : String) (type : Option String) :
  (Statement.assign (f.leaf a) true (onLeaves (.binary false op (.reg b) l.name type) [f.leaf b, l])).Tells f
   (some (.reg a)) [b] := by
 have hl : operand (table [f.leaf b, l]) l.name = .leaf l := operand_table (by simp) (by simp [hn])
 simp +contextual [hu, hn ▸ hl, hn, f.operand_leaves]

lemma tells_literal (text : String) (lit : Int) :
  (lowerLiteral text (f.leaf a) (f.leaf b) lit).Tells f (some (.reg a)) [b] := by
 simpa only [lowerLiteral, f.name_leaf] using tells_fixed rfl rfl text (some "I")

lemma used_loadedNumber (ins : Instr) (lit : Int) : (loadedNumber ins lit).used = [] := by
 unfold loadedNumber
 split <;> rfl

lemma tells_indexed : (lowerIndexed d op ins (f.leaf a) idx).Gives
  (·.Tells f (if op < 0x67 then some (.reg a) else none) (if op < 0x67 then [] else [a])) := by
 unfold lowerIndexed
 split_ifs with hs ht hc ht hn ht ht <;> try (simp at hs; omega)
 · exact .next fun s => .ok (by simp [textConstant, Leaf.used])
 · exact .next fun s => .next fun t => .ok (by simp [textConstant, Leaf.used])
 · exact .next fun t => .ok (by simp)
 · exact .next fun t => .ok (by simp)
 · exact .next fun t => .ok (by simp +contextual [f.operand_leaves])

lemma tells_indexedTwo : (lowerIndexedTwo d op (f.leaf a) (f.leaf b) idx).Gives
  (·.Tells f (if op < 0x59 then some (.reg a) else none) (if op < 0x59 then [b] else [b, a])) := by
 unfold lowerIndexedTwo
 split_ifs with hi ht hn ht ht <;> try omega
 · refine .next fun t => .next fun c => .ok ?_
   simpa using tells_fixed (a := a) rfl rfl "instanceof" none
 · exact .next fun t => .ok (by simp +contextual [f.operand_leaves])
 · exact .next fun t => .ok (by simp +contextual [f.operand_leaves])
 · exact .next fun t => .ok (by simp +contextual [f.operand_leaves])

lemma tells_one (h : lowerOne st op (f.leaf a) = .ok s) :
  s.Tells f (if op ≤ 0x0d then some (.reg a) else none) (if op ≤ 0x0d then [] else [a]) ↔
   op ≠ 0x0d ∧ (op ≤ 0x0c -> ∀ l, st.last = some l -> ∀ r, ¬ f.IsThis r -> .reg r ∉ l.used) := by
 unfold lowerOne at h
 split_ifs at h with hm hx ht
 · cases hr : st.last with
   | none => simp [hr] at h
   | some l =>
    simp only [hr, Except.ok.injEq] at h
    subst h
    have hl : operand (table [f.leaf a, l]) l.name = .leaf l := operand_concat [f.leaf a] l
    simp [hl, hm, show op ≤ 0x0d by omega, show op ≠ 0x0d by omega]
 · cases h
   simp [hx]
 · cases h
   simp +contextual [ht, f.operand_leaves]
 · cases h
   simp +contextual [hx, hm, show ¬ op ≤ 0x0d by omega, f.operand_leaves]

lemma mem_used_filled (rs : List Int) (hr : ¬ f.IsThis r) :
  .reg r ∈ (lowerFilled st (f.leaf a) type (rs.map f.leaf)).1.used ↔ r ∈ rs ∨ r = a := by
 have hl : ∀ k ∈ rs, operand (table (f.leaf a :: rs.map f.leaf)) (.reg k) = .leaf (f.leaf k) := fun k hk =>
  f.operand_leaves k (mem_cons_of_mem _ (mem_map_of_mem hk)) (by simp +contextual)
 simp only [lowerFilled, Statement.used, onLeaves, Term.used, Op.used, mem_uniq, mem_append, mem_flatMap,
  mem_map, of_usedAll]
 constructor
 · rintro (⟨_, ⟨_, ⟨k, hk, rfl⟩, rfl⟩, h⟩ | h)
   · rw [f.name_leaf, hl k hk, Term.used, f.mem_used_leaf hr] at h
     exact .inl (h ▸ hk)
   · exact .inr (by simpa using h)
 · rintro (h | rfl)
   · refine .inl ⟨_, ⟨_, ⟨r, h, rfl⟩, rfl⟩, ?_⟩
     rw [f.name_leaf, hl r h, Term.used, f.mem_used_leaf hr]
   · simp

lemma tells_filled (rs qs : List Int) :
  (lowerFilled st (f.leaf a) type (rs.map f.leaf)).1.Tells f (some st.fresh.1.name) qs ↔
   ∀ r, ¬ f.IsThis r -> (r ∈ rs ∨ r = a ↔ r ∈ qs) :=
 (and_iff_right rfl).trans (forall₂_congr fun _ hr => iff_congr (mem_used_filled rs hr) .rfl)

lemma lowerBody_of_lower (h : lower d f payload st ins = .ok (some s, st')) :
  lowerBody d f payload st ins = .ok (s, st') := by
 simp only [lower] at h
 split_ifs at h
 · cases h
 iterate 2
  · obtain ⟨_, -, h⟩ := Res.bind_ok h
    cases h
 · obtain ⟨_, -, h⟩ := Res.bind_ok h
   obtain ⟨x, hl, h⟩ := Res.bind_ok h
   cases h
   exact hl
 · obtain ⟨x, hl, h⟩ := Res.bind_ok h
   cases h
   exact hl

/-- The name of what an instruction writes, the first register of a pair; a filled array gets a name of its own. -/
def written (st : Results) : Instr -> Option Name
 | .f12x _ a _ | .f22x _ a _ | .f32x _ a _ | .f11n _ a _ | .f21s _ a _ | .f31i _ a _ | .f21h _ a _ | .f51l _ a _
 | .f22s _ a _ _ | .f22b _ a _ _ => some (.reg a)
 | .f11x op a => if op ≤ 0x0d then some (.reg a) else none
 | .f21c op a _ | .f31c op a _ => if op < 0x67 then some (.reg a) else none
 | .f22c op a _ _ => if op < 0x59 then some (.reg a) else none
 | .f23x op a _ _ => if 0x4b ≤ op ∧ op < 0x90 then none else some (.reg a)
 | .f35c _ _ _ _ _ _ _ _ _ | .f3rc _ _ _ _ => some st.fresh.1.name
 | _ => none

/-- Where a statement tells the registers of its instruction. -/
def Traced (f : Frame) (st : Results) (ins : Instr) : Prop :=
 match ins with
 | .f11x op _ => op ≠ 0x0d ∧ (op ≤ 0x0c -> ∀ l, st.last = some l -> ∀ r, ¬ f.IsThis r -> .reg r ∉ l.used)
 | .f35c _ count _ _ d e f' g _ =>
  ∀ r, ¬ f.IsThis r -> (r ∈ ([d, e, f', g, count] : List Int) ∨ r = count ↔ r ∈ ins.reads)
 | .f3rc _ count _ first =>
  ∀ r, ¬ f.IsThis r -> (r ∈ ([first, first + count - 1] : List Int) ∨ r = count ↔ r ∈ ins.reads)
 | _ => True

theorem registers_told_iff (h : lower d f payload st ins = .ok (some s, st')) (hc : ins.isCall = false) :
  s.Tells f (written st ins) ins.reads ↔ Traced f st ins := by
 have hb := lowerBody_of_lower h
 cases ins <;> simp only [lowerBody, Traced, written, Instr.reads, iff_true] at hb ⊢
 case f12x | f22x | f32x =>
  cases hb
  exact tells_two
 case f23x =>
  cases hb
  exact tells_three
 case f22s =>
  cases hb
  exact tells_literal _ _
 case f22b =>
  split at hb <;> cases hb <;> exact tells_literal _ _
 case f21c | f31c =>
  obtain ⟨x, hl, hb⟩ := Res.bind_ok hb
  cases hb
  exact tells_indexed _ hl
 case f22c =>
  obtain ⟨x, hl, hb⟩ := Res.bind_ok hb
  cases hb
  exact tells_indexedTwo _ hl
 case f11n | f21s | f31i | f21h | f51l =>
  cases hb
  simp [used_loadedNumber]
 case f22t | f21t =>
  cases hb
  simp +contextual [f.operand_leaves]
 case f31t =>
  split at hb <;> cases hb <;> simp +contextual [f.operand_leaves]
 case f10x op =>
  cases hb
  split <;> simp
 case f11x =>
  obtain ⟨x, hl, hb⟩ := Res.bind_ok hb
  cases hb
  exact tells_one hl
 case f35c op count _ _ d e f' g _ =>
  split at hb
  · cases hb
    exact tells_filled [d, e, f', g, count] _
  · next ho => exact absurd (not_not.mp (of_decide_eq_false hc)) ho
 case f3rc op count _ first =>
  split at hb
  · cases hb
    exact tells_filled [first, first + count - 1] _
  · next ho => exact absurd (not_not.mp (of_decide_eq_false hc)) ho
 all_goals
  cases hb
  simp

theorem registers_told_addition : ∃ s, lower default default none default (.f23x 0x90 0 1 2) = .ok (some s, default) ∧
  s.Tells default (some (.reg 0)) [1, 2] := by
 have h : lower default default none default (.f23x 0x90 0 1 2) = .ok (some _, default) := rfl
 exact ⟨_, h, (registers_told_iff h rfl).mpr trivial⟩

theorem exception_register_untold : ∃ s, lower default default none default (.f11x 0x0d 1) = .ok (some s, default) ∧
  written default (.f11x 0x0d 1) = some (.reg 1) ∧ s.target? = none ∧ s.used = [.reg 1] :=
 ⟨_, rfl, rfl, rfl, by decide⟩

end

end DexLens.Source
