import DexLens.Proofs.Analysis.Exact
import DexLens.Proofs.Code.Lossless

/-! # Blocks partition code

Every decoded instruction takes at least one byte. So the blocks of a method stand one after the other over all of
its code, in plain and in optimized files.
-/

namespace DexLens.Analysis.Flow

open Code Dex Specimen List Sweep Res

lemma run_advances (odex : Bool) (he : left ≤ bs.length) : ∀ ins ∈ (run odex fuel left bs).1, 0 < ins.length := by
 induction fuel generalizing left bs with
 | zero => exact fun _ hm => by cases hm
 | succ fuel ih =>
  unfold run
  by_cases ends : left = 0
  · simp [ends]
  rw [if_neg ends]
  cases hd : next odex left bs with
  | error cause => exact fun _ hm => by cases hm
  | ok ins =>
   have more : bs ≠ [] := by
    rintro rfl
    exact ends (Nat.le_zero.mp he)
   refine forall_mem_cons.mpr ⟨(from_next hd).advances more, ih ?_⟩
   rw [length_drop]
   omega

lemma advances_of_read {c : CodeItem} (read : c.Read odex) : ∀ ins ∈ c.instrs, 0 < ins.length := by
 have hs := congrArg Prod.fst read.swept
 rw [<- show _ = c.instrs from hs]
 exact run_advances odex (by simp)

/-- The blocks of a flow are those that were cut, with links and guards added. Guarded ranges start blocks. -/
lemma ofMethod_divides {odex recode : Bool} {blob : Bytes} (hl : File.load odex recode blob = .ok d)
  (hk : d.codeOf? r = some c) (hb : ofMethod d r = .ok flow) : c.Read odex ∧ ∃ dsts ends bs,
   Divides 1 (d.methodAt r).title dsts ends (located 0 c.instrs) bs ∧ flow.blocks.toList.map bare = bs ∧
   ∃ gs, guardsOf d c = .ok gs ∧ (∀ g ∈ gs, g.start ∈ dsts) ∧
    flow.guards.toList.map (fun g => (g.start, g.stop)) = gs.map (fun g => (g.start, g.stop)) ∧
    ∀ b ∈ flow.blocks, b.guard = guardFor? flow.guards b.start ((b.stop : Int) - 1) := by
 have read := File.read_of_codeOf hl hk
 rw [ofMethod, hk] at hb
 obtain ⟨is, hd, hb⟩ := bind_ok hb
 obtain rfl : c.instrs = is := by
  unfold CodeItem.decoded at hd
  split at hd
  · cases hd
  · exact Except.ok.inj hd
 obtain ⟨ends, -, hb⟩ := bind_ok hb
 obtain ⟨gs, hg, hb⟩ := bind_ok hb
 cases hb
 have hv := cut_divides (d.methodAt r).title (ends.flatMap (·.2) ++ gs.flatMap fun g => g.start :: g.handlers.map (·.addr))
  (ends.map (·.1)) (laid_located 0 c.instrs) one_pos
  (forall_located.mpr (advances_of_read read))
 refine ⟨read, _, _, _, hv, ext_getElem? fun j => ?_, gs, hg, fun g hm => ?_, by simp [Function.comp_def], fun b hm => ?_⟩
 rotate_left
 · exact mem_append_right _ (mem_flatMap.mpr ⟨g, hm, mem_cons_self⟩)
 · obtain ⟨b, -, rfl⟩ := Array.mem_map.mp hm
   rfl
 rw [getElem?_map, Array.getElem?_toList]
 refine (congrArg _ (getElem?_withPrev _ _ _ j)).trans ?_
 cases at_j : (cut _ _ _ _ _ _)[j]? with
 | none => rfl
 | some b => exact congrArg some (hv.filled b (mem_of_getElem? at_j)).bare

lemma tiles_bare : Tiles least start stop (bs.map bare) ↔ Tiles least start stop bs := by
 induction bs generalizing start with
 | nil => rfl
 | cons b bs ih => exact and_congr_right fun _ => and_congr_right fun _ => ih

/-- Blocks stand one after the other from the first to the last byte, none is empty, every instruction lies in exactly
    one, and the instructions in the range of a block are those that were pushed into it. -/
theorem blocks_partition {odex recode : Bool} {blob : Bytes} {d : File} (loaded : File.load odex recode blob = .ok d)
  {r : MRef} {c : CodeItem} (known : d.codeOf? r = some c) {flow : Flow} (built : ofMethod d r = .ok flow) :
  let all := located 0 c.instrs
  Tiles 1 0 (finish 0 all) flow.blocks.toList ∧
   (∀ p ∈ all, ∃! i : Nat, ∃ b : Block, flow.blocks[i]? = some b ∧ b.start ≤ p.1 ∧ p.1 + p.2.length ≤ b.stop) ∧
   ∀ b ∈ flow.blocks, bare b = filling (d.methodAt r).title all b.start (b.code all) ∧ (b.code all).length = b.count := by
 intro all
 obtain ⟨read, dsts, ends, bs, hd, rfl, -⟩ := ofMethod_divides loaded known built
 have ha := advances_of_read read
 have ht : Tiles 1 0 (finish 0 all) flow.blocks.toList := tiles_bare.mp hd.tiles
 refine ⟨ht, fun p hm => ?_, fun b hm => ?_⟩
 · have long : 0 < p.2.length := forall_located.mpr ha p hm
   have held : p ∈ (flow.blocks.toList.map bare).flatMap (·.code all) := hd.code.symm ▸ hm
   obtain ⟨b', hb, hi⟩ := mem_flatMap.mp held
   obtain ⟨b, memB, rfl⟩ := mem_map.mp hb
   obtain ⟨i, at_i⟩ := List.getElem?_of_mem memB
   have hf := hd.filled (bare b) hb
   have hn : b.start ≤ p.1 ∧ p.1 + p.2.length ≤ b.stop := hf.stop ▸ hf.laid.bounds p hi
   refine ⟨i, ⟨b, by simpa using at_i, hn⟩, ?_⟩
   rintro j ⟨c, at_j, hl, hu⟩
   rw [<- Array.getElem?_toList] at at_j
   by_contra ho
   rcases Nat.lt_or_gt_of_ne ho with hr | haf
   · have := ht.stop_le at_j at_i hr
     omega
   · have := ht.stop_le at_i at_j haf
     omega
 · have hf := hd.filled (bare b) (mem_map_of_mem (Array.mem_toList_iff.mpr hm))
   exact ⟨hf.pushed, hf.count.symm⟩

/-- The specimen that creates an object is cut into blocks. -/
theorem creation_partition : ∃ d c flow, File.load false false (blob 3) = .ok d ∧
  d.codeOf? method = some c ∧ ofMethod d method = .ok flow ∧
  Tiles 1 0 (finish 0 (located 0 c.instrs)) flow.blocks.toList := by
 obtain ⟨⟨d, hl, c, hk, hs, ht, ho⟩, -⟩ := blobs_sound
 obtain ⟨-, hd, hp⟩ := plain_code hl hk
 obtain ⟨flow, hb⟩ : ∃ flow, ofMethod d method = .ok flow := by
  rw [ofMethod, hk]
  exact ofCode_exists hs (forall_located.mpr fun ins hm => (hp ins hm).named) hd ho ht
 exact ⟨d, c, flow, hl, hk, hb, (blocks_partition hl hk hb).1⟩

end DexLens.Analysis.Flow
