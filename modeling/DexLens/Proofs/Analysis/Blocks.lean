import DexLens.Proofs.Effect
import DexLens.Analysis.Flow

/-! # Code in blocks

Instructions are laid one after the other. Cutting them gives runs, each of which becomes a block.
-/

namespace DexLens.Analysis.Flow

open Code List

variable {start i j : Nat} {code run : Located} {b c : Block} {p : Nat × Instr}

/-- Where code ends that starts at an offset. -/
def finish (start : Nat) (code : Located) : Nat := code.foldl (· + ·.2.length) start

/-- The instructions stand one after the other, from an offset on. -/
def Laid : Nat -> Located -> Prop
 | _, [] => True
 | start, p :: code => p.1 = start ∧ Laid (start + p.2.length) code

section

variable (start : Nat) (is : List Instr)

@[simp] lemma finish_nil : finish start [] = start := rfl

@[simp] lemma finish_cons (p : Nat × Instr) (code : Located) :
  finish start (p :: code) = finish (start + p.2.length) code := rfl

@[simp] lemma finish_append (xs ys : Located) : finish start (xs ++ ys) = finish (finish start xs) ys := foldl_append

lemma le_finish (code : Located) : start ≤ finish start code := by
 induction code generalizing start with
 | nil => exact le_rfl
 | cons p code ih => exact (Nat.le_add_right _ _).trans (ih _)

lemma laid_located : Laid start (located start is) := by
 induction is generalizing start with
 | nil => trivial
 | cons i is ih => exact ⟨rfl, ih _⟩

lemma map_snd_located : (located start is).map (·.2) = is := by
 induction is generalizing start with
 | nil => rfl
 | cons i is ih => exact congrArg (i :: ·) (ih _)

end

lemma forall_located {P : Instr -> Prop} : (∀ p ∈ located start is, P p.2) ↔ ∀ i ∈ is, P i := by
 conv_rhs => rw [<- map_snd_located start is, forall_mem_map]

lemma laid_append : Laid start (xs ++ ys) ↔ Laid start xs ∧ Laid (finish start xs) ys := by
 induction xs generalizing start with
 | nil => simp [Laid]
 | cons p xs ih => simp [Laid, ih, and_assoc]

lemma Laid.bounds (laid : Laid start code) : ∀ p ∈ code, start ≤ p.1 ∧ p.1 + p.2.length ≤ finish start code := by
 induction code generalizing start with
 | nil => exact nofun
 | cons q code ih =>
  intro p hm
  obtain ⟨here, rest⟩ := laid
  rcases mem_cons.mp hm with rfl | hl
  · exact ⟨here.ge, by rw [here]; exact le_finish _ _⟩
  · obtain ⟨hw, hu⟩ := ih rest p hl
    exact ⟨by omega, hu⟩

lemma Laid.pairwise {all : Located} (laid : Laid start all) (long : ∀ p ∈ all, 0 < p.2.length) : all.Pairwise (·.1 < ·.1) := by
 induction all generalizing start with
 | nil => exact .nil
 | cons p all ih =>
  obtain ⟨rfl, rest⟩ := laid
  obtain ⟨here, long⟩ := forall_mem_cons.mp long
  refine pairwise_cons.mpr ⟨fun q hq => ?_, ih rest long⟩
  have := (rest.bounds q hq).1
  omega

lemma name_of_branches {all ends} (he : branches code all = .ok ends) : ∀ p ∈ code, ∃ name, p.2.name = .ok name := by
 intro p hm
 obtain ⟨found, each, -⟩ := Res.bind_ok he
 obtain ⟨_, -, here⟩ := Res.mapM_mem each p hm
 obtain ⟨name, ho, -⟩ := Res.bind_ok here
 exact ⟨name, ho⟩

/-! ## Runs -/

/-- The block that pushing these instructions makes. -/
def filling (title : String) (all : Located) (start : Nat) (run : Located) : Block :=
 run.foldl (·.push all ·.2) (blank title start)

section

variable (title : String) (dsts : List Int) (ends : List Nat) (all : Located)

/-- The block without its links and its guard. -/
def bare (b : Block) : Block := { b with next := [], prev := [], guard := none }

/-- Just these instructions were pushed into the block, and nothing else was done to it. -/
structure Filled (title : String) (all : Located) (b : Block) (run : Located) : Prop where
 laid : Laid b.start run
 pushed : b = filling title all b.start run
 stop : b.stop = finish b.start run
 count : b.count = run.length
 last : ∀ p, run.getLast? = some p -> b.lastLength = p.2.length
 bare : bare b = b

lemma filled_blank (start : Nat) : Filled title all (blank title start) []:= ⟨trivial, rfl, rfl, rfl, nofun, rfl⟩

lemma push_stop (b : Block) (ins : Instr) : (b.push all ins).stop = b.stop + ins.length := by
 unfold Block.push
 simp only
 split
 · split <;> rfl
 · rfl

lemma Filled.push {title all} (hf : Filled title all b run) (here : p.1 = b.stop) :
  Filled title all (b.push all p.2) (run ++ [p]) := by
 have hl : (b.push all p.2).start = b.start ∧ (b.push all p.2).count = b.count + 1 ∧
   (b.push all p.2).lastLength = p.2.length ∧ Flow.bare (b.push all p.2) = (Flow.bare b).push all p.2 := by
  unfold Block.push
  simp only
  split
  · split <;> exact ⟨rfl, rfl, rfl, rfl⟩
  · exact ⟨rfl, rfl, rfl, rfl⟩
 obtain ⟨start, hc, last, bare⟩ := hl
 refine ⟨?_, ?_, ?_, ?_, fun q hn => ?_, by rw [bare, hf.bare]⟩
 · rw [start, laid_append]
   exact ⟨hf.laid, here.trans hf.stop, trivial⟩
 · rw [start, filling, foldl_concat]
   exact congrArg (·.push all p.2) hf.pushed
 · rw [start, push_stop, finish_append, <- hf.stop]
   rfl
 · rw [hc, hf.count, length_append]
   rfl
 · rw [getLast?_concat, Option.some.injEq] at hn
   rw [last, hn]

def Stays (p q : Nat × Instr) : Prop := p.1 ∉ ends ∧ (q.1 : Int) ∉ dsts

def Whole (run : Located) : Prop := run ≠ [] ∧ run.IsChain (Stays dsts ends)

/-- The blocks hold runs, and the runs make up the code. -/
lemma cut_runs (hf : Filled title all b acc) (laid : Laid b.stop code) (hc : acc.IsChain (Stays dsts ends))
  (hs : ∀ p, acc.getLast? = some p -> p.1 ∉ ends) :
  ∃ runs, Forall₂ (Filled title all) (cut title dsts ends all code b) runs ∧ runs.flatten = acc ++ code ∧
   ∀ run ∈ runs, Whole dsts ends run := by
 induction code generalizing acc b with
 | nil =>
  unfold cut
  by_cases he : acc = []
  · exact ⟨[], by simp [hf.count, he], by simp [he], nofun⟩
  · have hm : b.count ≠ 0 := by simpa [hf.count] using he
    rw [if_neg hm]
    exact ⟨[acc], by simp [hf], by simp, by simpa [Whole, he] using hc⟩
 | cons p rest ih =>
  obtain ⟨idx, ins⟩ := p
  obtain ⟨here, laid⟩ := laid
  -- The instruction goes into a block, which is done if the instruction is a branch.
  have hg : ∀ {acc' : Located} {b' : Block}, Filled title all b' acc' -> b'.stop = b.stop ->
    (acc' ++ [(idx, ins)]).IsChain (Stays dsts ends) ->
    ∃ runs, Forall₂ (Filled title all)
     (if ends.contains idx then b'.push all ins :: cut title dsts ends all rest (blank title (b'.push all ins).stop)
      else cut title dsts ends all rest (b'.push all ins)) runs ∧
     runs.flatten = acc' ++ (idx, ins) :: rest ∧ ∀ run ∈ runs, Whole dsts ends run := by
   intro acc' b' hl same hh
   have hp : Filled title all (b'.push all ins) (acc' ++ [(idx, ins)]) := hl.push (here.trans same.symm)
   have hla : Laid (b'.push all ins).stop rest := by rwa [push_stop, same]
   by_cases done : idx ∈ ends
   · rw [if_pos (contains_iff_mem.mpr done)]
     obtain ⟨runs, hb, flat, hw⟩ := ih (filled_blank title all _) hla .nil nofun
     exact ⟨_ :: runs, .cons hp hb, by simp [flat], forall_mem_cons.mpr ⟨⟨by simp, hh⟩, hw⟩⟩
   · rw [if_neg (by simpa using done)]
     obtain ⟨runs, hb, flat, hw⟩ := ih hp hla hh (by simpa using done)
     exact ⟨runs, hb, by simp [flat], hw⟩
  unfold cut
  split
  · rename_i ht
    have hn : acc ≠ [] := by
     rintro rfl
     simp [hf.count] at ht
    obtain ⟨runs, hb, flat, hw⟩ := hg (filled_blank title all b.stop) rfl (isChain_singleton _)
    exact ⟨acc :: runs, .cons hf hb, by simp [flat], forall_mem_cons.mpr ⟨⟨hn, hc⟩, hw⟩⟩
  · rename_i hno
    refine hg hf rfl (isChain_append.mpr ⟨hc, isChain_singleton _, fun q hd r next => ?_⟩)
    have hn : acc ≠ [] := by
     rintro rfl
     cases hd
    obtain rfl : (idx, ins) = r := by simpa using next
    exact ⟨hs q hd, by simpa [hf.count, hn] using hno⟩

end

/-! ## Tiles -/

/-- Blocks stand one after the other from an offset to another, none shorter than some length. -/
def Tiles (least : Nat) : Nat -> Nat -> List Block -> Prop
 | start, stop, [] => start = stop
 | start, stop, b :: bs => b.start = start ∧ start + least ≤ b.stop ∧ Tiles least b.stop stop bs

section

variable {least stop : Nat} {bs : List Block}

lemma Tiles.le_start (ht : Tiles least start stop bs)
  (at_i : bs[i]? = some b) : start ≤ b.start ∧ b.start + least ≤ b.stop := by
 induction bs generalizing start i with
 | nil => cases at_i
 | cons c bs ih =>
  obtain ⟨here, long, rest⟩ := ht
  cases i with
  | zero =>
   obtain rfl : c = b := by simpa using at_i
   omega
  | succ i =>
   have hl := ih rest (by simpa using at_i)
   omega

lemma Tiles.stop_le (ht : Tiles least start stop bs)
  (at_i : bs[i]? = some b) (at_j : bs[j]? = some c) (hb : i < j) : c.start = b.stop ∨ b.stop + least ≤ c.start := by
 induction bs generalizing start i j with
 | nil => cases at_i
 | cons x bs ih =>
  obtain ⟨here, long, rest⟩ := ht
  obtain ⟨j, rfl⟩ : ∃ k, j = k + 1 := ⟨j - 1, by omega⟩
  rw [getElem?_cons_succ] at at_j
  cases i with
  | succ i => exact ih rest (by simpa using at_i) at_j (by omega)
  | zero =>
   obtain rfl : x = b := by simpa using at_i
   -- Only the block right after this one can start where it stops.
   cases bs with
   | nil => cases at_j
   | cons y bs =>
    obtain ⟨next, hl, rest⟩ := rest
    cases j with
    | zero =>
     obtain rfl : y = c := by simpa using at_j
     exact .inl next
    | succ j =>
     have := rest.le_start (by simpa using at_j)
     omega

lemma Tiles.apart (ht : Tiles least start stop bs) (memB : b ∈ bs)
  (memC : c ∈ bs) : b = c ∨ (c.start = b.stop ∨ b.stop + least ≤ c.start) ∨ c.stop ≤ b.start := by
 obtain ⟨i, at_i⟩ := getElem?_of_mem memB
 obtain ⟨j, at_j⟩ := getElem?_of_mem memC
 rcases lt_trichotomy i j with hb | same | ha
 · exact .inr (.inl (ht.stop_le at_i at_j hb))
 · rw [same, at_j, Option.some.injEq] at at_i
   exact .inl at_i.symm
 · have := ht.stop_le at_j at_i ha
   omega

lemma Tiles.blockAt?_eq_some (ht : Tiles least start stop bs) :
  blockAt? bs.toArray off = some j ↔ ∃ b, bs[j]? = some b ∧ (b.start : Int) ≤ off ∧ off < b.stop := by
 unfold blockAt?
 rw [findIdx?_toArray, findIdx?_eq_some_iff_getElem]
 simp only [Bool.and_eq_true, decide_eq_true_eq]
 constructor
 · rintro ⟨hi, hh, -⟩
   exact ⟨bs[j], getElem?_eq_getElem hi, hh⟩
 · rintro ⟨b, at_j, hh⟩
   obtain ⟨hi, rfl⟩ := List.getElem?_eq_some_iff.mp at_j
   refine ⟨hi, hh, fun i hb => ?_⟩
   have := ht.stop_le (getElem?_eq_getElem (by omega : i < bs.length)) at_j hb
   omega

lemma Tiles.blockAt?_dst (ht : Tiles 2 start stop bs) (hc : ∀ b ∈ bs, ¬ ((b.start : Int) < off ∧ off < b.stop)) :
  blockAt? bs.toArray off = some j ↔ ∃ b, bs[j]? = some b ∧ (b.start : Int) = off := by
 rw [ht.blockAt?_eq_some]
 refine exists_congr fun b => and_congr_right fun at_j => ?_
 have := hc b (mem_of_getElem? at_j)
 have := ht.le_start at_j
 omega

/-- No instruction is one byte long, so the block after another one holds its second byte. -/
lemma Tiles.blockAt?_after (ht : Tiles 2 start stop bs) (memB : b ∈ bs) :
  blockAt? bs.toArray (b.stop + 1) = some j ↔ ∃ c, bs[j]? = some c ∧ c.start = b.stop := by
 rw [ht.blockAt?_eq_some]
 refine exists_congr fun c => and_congr_right fun at_j => ?_
 have := ht.le_start at_j
 obtain ⟨i, at_i⟩ := getElem?_of_mem memB
 have := ht.le_start at_i
 rcases ht.apart memB (mem_of_getElem? at_j) with rfl | hl | he <;> omega

lemma Tiles.clear (ht : Tiles least start stop bs) (memB : b ∈ bs)
  (memC : c ∈ bs) : ¬ (c.start < b.start ∧ b.start < c.stop) ∧ ¬ (c.start < b.stop ∧ b.stop < c.stop) := by
 obtain ⟨i, at_i⟩ := getElem?_of_mem memB
 have := ht.le_start at_i
 rcases ht.apart memB memC with rfl | hl | he <;> omega

end

/-! ## Code cut into blocks -/

/-- The blocks hold the code, piece by piece, and none is cut inside. -/
structure Divides (least : Nat) (title : String) (dsts : List Int) (ends : List Nat) (all : Located)
  (bs : List Block) : Prop where
 tiles : Tiles least 0 (finish 0 all) bs
 filled : ∀ b ∈ bs, Filled title all b (b.code all)
 whole : ∀ b ∈ bs, Whole dsts ends (b.code all)
 code : bs.flatMap (·.code all) = all

lemma code_of_filled {title all before after} (hfi : Filled title all b run) (hs : run ≠ [])
  (laid : Laid 0 (before ++ (run ++ after))) (long : ∀ p ∈ before ++ (run ++ after), 0 < p.2.length) :
  b.start = finish 0 before ∧ b.code (before ++ (run ++ after)) = run := by
 obtain ⟨hl, laid⟩ := laid_append.mp laid
 obtain ⟨hd, hf⟩ := laid_append.mp laid
 have start : b.start = finish 0 before := by
  have own := hfi.laid
  cases run with
  | nil => exact absurd rfl hs
  | cons p run => exact own.1.symm.trans hd.1
 have stop : b.stop = finish (finish 0 before) run := by rw [hfi.stop, start]
 refine ⟨start, ?_⟩
 have out : before.filter (fun p => b.start ≤ p.1 && p.1 < b.stop) = [] := by
  refine filter_eq_nil_iff.mpr fun p hm => ?_
  have := (hl.bounds p hm).2
  have := long p (by simp [hm])
  simp
  omega
 have hi : run.filter (fun p => b.start ≤ p.1 && p.1 < b.stop) = run := by
  refine filter_eq_self.mpr fun p hm => ?_
  have := hd.bounds p hm
  have := long p (by simp [hm])
  simp
  omega
 have past : after.filter (fun p => b.start ≤ p.1 && p.1 < b.stop) = [] := by
  refine filter_eq_nil_iff.mpr fun p hm => ?_
  have := (hf.bounds p hm).1
  simp
  omega
 rw [Block.code, filter_append, filter_append, out, hi, past, nil_append, append_nil]

variable {least : Nat} {title : String}

lemma tiles_of_filled {all : Located} (laid : Laid 0 all) (hs : 0 < least)
  (long : ∀ p ∈ all, least ≤ p.2.length)
  (hl : Forall₂ (Filled title all) bs runs)
  (hn : ∀ run ∈ runs, run ≠ []) (before : Located) (flat : before ++ runs.flatten = all) :
  Tiles least (finish 0 before) (finish 0 all) bs ∧ (∀ b ∈ bs, Filled title all b (b.code all)) ∧
   bs.map (·.code all) = runs := by
 induction hl generalizing before with
 | nil => exact ⟨by simp [Tiles, <- flat], nofun, rfl⟩
 | @cons b run bs runs own _ ih =>
  obtain ⟨hf, hn⟩ := forall_mem_cons.mp hn
  obtain ⟨ht, held, hc⟩ := ih hn (before ++ run) (by simpa using flat)
  rw [flatten_cons] at flat
  obtain ⟨start, code⟩ := code_of_filled own hf (flat ▸ laid) (flat ▸ fun p hm => hs.trans_le (long p hm))
  rw [flat] at code
  rw [finish_append, <- start, <- own.stop] at ht
  refine ⟨⟨start, ?_, ht⟩, forall_mem_cons.mpr ⟨code.symm ▸ own, held⟩, by rw [map_cons, code, hc]⟩
  -- A block is at least as long as its first instruction.
  cases run with
  | nil => exact absurd rfl hf
  | cons p run =>
   have := long p (by simp [<- flat])
   have := le_finish (b.start + p.2.length) run
   rw [own.stop, <- start, finish_cons]
   omega

lemma cut_divides (title : String) (dsts : List Int) (ends : List Nat) {all}
  (laid : Laid 0 all) (hs : 0 < least) (long : ∀ p ∈ all, least ≤ p.2.length) :
  Divides least title dsts ends all (cut title dsts ends all all (blank title 0)) := by
 obtain ⟨runs, hf, flat, hw⟩ := cut_runs title dsts ends all (filled_blank title all 0) laid .nil nofun
 rw [nil_append] at flat
 obtain ⟨ht, held, hc⟩ := tiles_of_filled laid hs long hf (fun run hm => (hw run hm).1) [] flat
 refine ⟨ht, held, fun b hm => hw _ (hc ▸ mem_map_of_mem hm), ?_⟩
 rw [flatMap_def, hc, flat]

lemma Laid.start_of_whole (laid : Laid start run) (hc : run.IsChain (Stays dsts ends)) (hm : p ∈ run)
  (ht : (p.1 : Int) ∈ dsts) : start = p.1 := by
 induction run generalizing start with
 | nil => cases hm
 | cons q run ih =>
  rcases mem_cons.mp hm with rfl | hl
  · exact laid.1.symm
  · cases run with
    | nil => cases hl
    | cons r run =>
     obtain ⟨hs, hc⟩ := isChain_cons_cons.mp hc
     have hf := ih laid.2 hc hl
     rw [<- laid.2.1] at hf
     exact absurd (hf ▸ ht) hs.2

lemma not_end_of_chain {dsts ends inner last} (hc : (inner ++ [last]).IsChain (Stays dsts ends)) : ∀ p ∈ inner, p.1 ∉ ends := by
 induction inner with
 | nil => exact nofun
 | cons q inner ih =>
  rw [cons_append, isChain_cons] at hc
  refine forall_mem_cons.mpr ⟨?_, ih hc.2⟩
  cases inner with
  | nil => exact (hc.1 last rfl).1
  | cons r inner => exact (hc.1 r rfl).1

namespace Divides

variable {dsts : List Int} {ends : List Nat} {all : Located} {bs : List Block}

lemma start_of_dst (hd : Divides least title dsts ends all bs) (hm : p ∈ all)
  (ht : (p.1 : Int) ∈ dsts) : ∃ b ∈ bs, b.start = p.1 := by
 rw [<- hd.code] at hm
 obtain ⟨b, memB, hi⟩ := mem_flatMap.mp hm
 exact ⟨b, memB, (hd.filled b memB).laid.start_of_whole (hd.whole b memB).2 hi ht⟩

/-- The last instruction of a block ends where the block does, and no other one is a branch. -/
lemma last_at (hd : Divides least title dsts ends all bs) (memB : b ∈ bs)
  {inner last} (code : b.code all = inner ++ [last]) :
  b.stop = last.1 + last.2.length ∧ b.lastLength = last.2.length ∧ ∀ p ∈ inner, p.1 ∉ ends := by
 have hf := hd.filled b memB
 rw [code] at hf
 obtain ⟨-, here, -⟩ := laid_append.mp hf.laid
 have hw := (hd.whole b memB).2
 rw [code] at hw
 refine ⟨?_, hf.last last (by simp), not_end_of_chain hw⟩
 rw [hf.stop, finish_append, finish_cons, finish_nil, here]

end Divides

/-! ## Links back -/

def arrows (bs : Array Block) : List (Nat × Link) := bs.toList.zipIdx.flatMap fun p => p.1.next.map (p.2, ·)

def back (a : Nat × Link) : Link := ⟨a.2.second, a.2.first, a.1⟩

lemma mem_arrows : (i, l) ∈ arrows bs ↔ ∃ b, bs[i]? = some b ∧ l ∈ b.next := by
 simp only [arrows, mem_flatMap, mem_map, Prod.exists, mem_zipIdx_iff_getElem?, Array.getElem?_toList, Prod.mk.injEq]
 constructor
 · rintro ⟨b, _, at_i, _, hm, rfl, rfl⟩
   exact ⟨b, at_i, hm⟩
 · rintro ⟨b, at_i, hm⟩
   exact ⟨b, i, at_i, l, hm, rfl, rfl⟩

lemma foldl_arrows (as : List (Nat × Link)) (bs : Array Block) (j : Nat) :
  (as.foldl (fun acc a => acc.modify a.2.block fun c => { c with prev := c.prev ++ [back a] }) bs)[j]? =
   bs[j]?.map fun c => { c with prev := c.prev ++ (as.filter (·.2.block = j)).map back } := by
 induction as generalizing bs with
 | nil => simp
 | cons a as ih =>
  rw [foldl_cons, ih, Array.getElem?_modify]
  by_cases own : a.2.block = j
  · simp [own, Function.comp_def]
  · simp [own]

lemma withPrev_eq (bs : Array Block) (j : Nat) : (withPrev bs)[j]? =
   bs[j]?.map fun c => { c with prev := c.prev ++ ((arrows bs).filter (·.2.block = j)).map back } := by
 rw [<- foldl_arrows, arrows, foldl_flatMap]
 simp only [foldl_map]
 rfl

end DexLens.Analysis.Flow
