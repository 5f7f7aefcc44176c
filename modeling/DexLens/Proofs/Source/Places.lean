import DexLens.Proofs.Source.Elimination

/-! # Places of lines

Lines are numbered block after block. A line is found under its number in its own block, also after others were
removed. Tracing definitions puts two nodes into the net and takes them out again, which leaves no trace.
-/

namespace DexLens.Source

open List

namespace Graph

lemma code_numbered (k : Nat) (ls : List Line) : (numbered k ls).map Line.code = ls.map Line.code := by
 have same : Line.code ∘ (fun p : Line × Nat => { p.1 with loc := k + p.2 }) = Line.code ∘ Prod.fst := rfl
 rw [numbered, map_map, same, <- map_map, zipIdx_map_fst]

namespace Laid

variable {g h : Graph} {b : Block}

lemma ownLines (laid : Laid g h k ns) (hm : n ∈ ns) (known : n < h.blocks.size) (same : b.range = (h.block n).range)
  (hl : b.lines ⊆ (h.block n).lines) : b.ownLines = .ok b.lines := by
 obtain ⟨a, -, lines, range⟩ := laid.each hm
 rw [Block.ownLines, same, range known]
 refine congrArg Except.ok (filter_eq_self.mpr fun l hi => ?_)
 simpa using loc_of_numbered (lines ▸ hl hi)

lemma found (laid : Laid g h k ns) (known : ∀ n ∈ ns, n < h.blocks.size) (hm : n ∈ ns) (hl : l ∈ (h.block n).lines) :
  ns.find? (fun n => match (h.block n).range with
   | some (first, stop) => first ≤ l.loc && l.loc < stop
   | none => false) = some n := by
 induction ns generalizing k with
 | nil => cases hm
 | cons m ns ih =>
  obtain ⟨lines, range, rest⟩ := laid
  obtain ⟨here, known⟩ := forall_mem_cons.mp known
  have range := range here
  by_cases own : n = m
  · subst own
    rw [find?_cons_of_pos]
    simpa [range] using loc_of_numbered (lines ▸ hl)
  · have hm := (mem_cons.mp hm).resolve_left own
    obtain ⟨a, ha, lines, -⟩ := rest.each hm
    have := loc_of_numbered (lines ▸ hl)
    rw [find?_cons_of_neg, ih rest known hm]
    simp only [range, Bool.and_eq_true, decide_eq_true_eq]
    omega

lemma line (laid : Laid g h k ns) (hm : n ∈ ns) (hl : l ∈ (h.block n).lines) (own : h.blockAt? l.loc = some n) :
  h.lineAt? l.loc = some l.code := by
 obtain ⟨a, -, lines, -⟩ := laid.each hm
 have once : (h.places n).Nodup := by
  rw [places, lines, places_numbered]
  exact nodup_range'
 have some := find?_isSome (p := (·.loc == l.loc)).mpr ⟨l, hl, beq_self_eq_true _⟩
 obtain ⟨k, hk⟩ := Option.isSome_iff_exists.mp some
 obtain rfl := inj_on_of_nodup_map once (mem_of_find?_eq_some hk) hl (by simpa using find?_some hk)
 rw [lineAt?_eq, own]
 exact congrArg (Option.map Line.code) hk

end Laid

/-- A graph without the lines at some places. -/
structure Without (f : Graph) (gone : List Nat) (h : Graph) : Prop where
 block : ∀ loc, h.blockAt? loc = f.blockAt? loc
 range : ∀ n, (h.block n).range = (f.block n).range
 lines : ∀ n ∈ f.order, (h.block n).lines = (f.block n).lines.filter (·.loc ∉ gone)
 line : ∀ loc, h.lineAt? loc = if loc ∈ gone then none else f.lineAt? loc

lemma Without.removeLine (found : ∀ n ∈ f.order, ∀ l ∈ (f.block n).lines, f.blockAt? l.loc = some n)
  (w : Without f gone h) (i : Nat) : Without f (i :: gone) (h.removeLine i) where
 block loc := (blockAt?_editLines h i loc).trans (w.block loc)
 range n := (range_editLines h i n).trans (w.range n)
 lines n hn := by
  rw [Graph.removeLine, lines_editLines h i rfl, w.lines n hn, w.block]
  split
  · rw [filter_filter]
    exact filter_congr fun l _ => Bool.eq_iff_iff.mpr (by simp)
  · next elsewhere =>
     refine filter_congr fun l hl => ?_
     have : l.loc ≠ i := fun same => elsewhere (same ▸ found n hn l hl)
     simp [this]
 line loc := by
  rw [lineAt?_removeLine, w.line]
  by_cases own : loc = i <;> simp [own]

lemma without_run (found : ∀ n ∈ f.order, ∀ l ∈ (f.block n).lines, f.blockAt? l.loc = some n)
  (w : Without f gone h) (locs : List Nat) : Without f (locs.reverse ++ gone) (locs.foldl Graph.removeLine h) := by
 induction locs generalizing gone h with
 | nil => exact w
 | cons i locs ih => simpa using ih (w.removeLine found i)

end Graph

lemma erase_concat {xs : List Nat} (hn : n ∉ xs) : (xs ++ [n]).erase n = xs := by
 rw [erase_append_right _ hn, erase_cons_head, append_nil]

namespace Net

variable {g : Net}

/-! ## Nodes that come and go -/

/-- A number that stands nowhere in a net. -/
structure Unused (g : Net) (k : Nat) : Prop where
 node : k ∉ g.nodes
 bare : g.succs k = [] ∧ g.preds k = []
 ends : ∀ n, k ∉ g.succs n ∧ k ∉ g.preds n

lemma erase_including {xs : List Nat} (hn : n ∉ xs) : (including n xs).erase n = xs := by
 rw [including, if_neg (by simpa using hn), erase_concat hn]

/-- A node that nothing leads to and that leads to one node is taken out. -/
lemma drop_first (hp : g.preds k = []) (hs : g.succs k = [e]) (n : Nat) : (g.removeNode k).succs n = g.succs n ∧
  (n ≠ k -> (g.removeNode k).preds n = if n = e then (g.preds e).erase k else g.preds n) := by
 have out (n : Nat) : (g.removeNode k).succs n = g.succs n := by simp [succs_removeNode, hp]
 refine ⟨out n, fun hn => ?_⟩
 rw [preds_removeNode (by simp [out, hs]), out, hs, if_neg hn]
 by_cases own : n = e <;> simp [own]

/-- A node that one node leads to and that leads nowhere is taken out. -/
lemma drop_last (hp : g.preds k = [x]) (hs : g.succs k = []) (n : Nat) :
  (g.removeNode k).succs n = (if n = x then (g.succs x).erase k else g.succs n) ∧
   (n ≠ k -> (g.removeNode k).preds n = g.preds n) := by
 have out (n : Nat) : (g.removeNode k).succs n = if n = x then (g.succs x).erase k else g.succs n := by
  rw [succs_removeNode (by simp [hp]), hp]
  by_cases own : n = x <;> simp [own]
 have bare : (g.removeNode k).succs k = [] := by
  rw [out]
  split
  · next own => rw [<- own, hs, erase_nil]
  · exact hs
 refine ⟨out n, fun hn => ?_⟩
 rw [preds_removeNode (by simp [bare]), bare, if_neg hn]
 simp

/-- The net while a node is before `e`, and while another one is behind `x` as well. -/
def led (g : Net) (s e : Nat) : Net := (g.addNode s).addEdge s e

def closed (g : Net) (s e x : Nat) : Net := ((g.led s e).addNode (s + 1)).addEdge x (s + 1)

section

variable {s e x : Nat} (hs : g.Unused s) (he : e < s)

lemma preds_led (n : Nat) : (g.led s e).preds n = if n = e then including s (g.preds e) else g.preds n :=
 preds_addEdge ..

include hs

lemma succs_led (n : Nat) : (g.led s e).succs n = if n = s then [e] else g.succs n :=
 (succs_addEdge ..).trans (if_congr .rfl (congrArg (including e) hs.bare.1) rfl)

lemma erase_preds_led (n : Nat) :
  (if n = e then ((g.led s e).preds e).erase s else (g.led s e).preds n) = g.preds n := by
 rw [preds_led, preds_led, if_pos rfl, erase_including (hs.ends e).2]
 by_cases own : n = e <;> simp [own]

include he

lemma led_gone (hn : n < s) :
  ((g.led s e).removeNode s).succs n = g.succs n ∧ ((g.led s e).removeNode s).preds n = g.preds n := by
 obtain ⟨out, into⟩ := drop_first (g := g.led s e) (k := s) (by rw [preds_led, if_neg he.ne', hs.bare.2])
  (by rw [succs_led hs, if_pos rfl]) n
 exact ⟨out.trans ((succs_led hs n).trans (if_neg hn.ne)), (into hn.ne).trans (erase_preds_led hs n)⟩

lemma closed_gone (ht : g.Unused (s + 1)) (hx : x < s) (hn : n < s) :
  let h := ((g.closed s e x).removeNode s).removeNode (s + 1)
  h.succs n = g.succs n ∧ h.preds n = g.preds n := by
 have into (n : Nat) : (g.closed s e x).preds n = if n = s + 1 then [x] else (g.led s e).preds n := by
  have bare : (g.led s e).preds (s + 1) = [] := by rw [preds_led, if_neg (by omega), ht.bare.2]
  exact (preds_addEdge ..).trans (if_congr .rfl (congrArg (including x) bare) rfl)
 have out (n : Nat) : (g.closed s e x).succs n = if n = x then including (s + 1) (g.succs x) else (g.led s e).succs n :=
  (succs_addEdge ..).trans (if_congr .rfl (congrArg _ ((succs_led hs x).trans (if_neg hx.ne))) rfl)
 -- The first node goes, and the second one still has its edge.
 have first := drop_first (g := g.closed s e x) (k := s) (e := e)
  (by rw [into, preds_led, if_neg (by omega), if_neg he.ne', hs.bare.2])
  (by rw [out, succs_led hs, if_pos rfl, if_neg hx.ne'])
 obtain ⟨hq, hp⟩ := drop_last (g := (g.closed s e x).removeNode s) (k := s + 1) (x := x)
  (by rw [(first _).2 (by omega), if_neg (by omega), into, if_pos rfl])
  (by rw [(first _).1, out, succs_led hs, if_neg (by omega), if_neg (by omega), ht.bare.1]) n
 constructor
 · rw [hq, (first n).1, (first x).1, out, out, if_pos rfl, erase_including (ht.ends x).1, succs_led hs, if_neg hn.ne]
   by_cases own : n = x <;> simp [own]
 · rw [hp (by omega), (first n).2 hn.ne, into, into, if_neg (c := e = s + 1) (by omega),
    if_neg (c := n = s + 1) (by omega), erase_preds_led hs]

end

end Net

namespace Graph

/-- Numbers without a block stand nowhere in a graph. -/
structure Housed (g : Graph) : Prop where
 net : ∀ k, g.blocks.size ≤ k -> g.net.Unused k
 order : ∀ n ∈ g.order, n < g.blocks.size
 ends : g.entry < g.blocks.size ∧ ∀ x ∈ g.exit, x < g.blocks.size

lemma getD_push {blocks : Array Block} (hn : n < blocks.size) (b : Block) :
  (blocks.push b).getD n default = blocks.getD n default := by
 simp [Array.getElem?_push_lt hn, hn]

/-- The second node of a fence has the number after the first one. -/
lemma fence_closed (g : Net) (blocks : Array Block) (ns : List Nat) (e x : Nat) : ∃ b c,
  fence ⟨g, blocks, ns, e, some x⟩ =
   ⟨g.closed blocks.size e x, (blocks.push b).push c, ns ++ [blocks.size + 1], blocks.size, some x⟩ := by
 have next (b : Block) : (blocks.push b).size = blocks.size + 1 := Array.size_push ..
 refine ⟨.make "entry" .plain .plain [], .make "exit" .plain .plain [], ?_⟩
 simp only [fence, create, addNode, addEdge, next, Net.closed, Net.led]

end Graph

end DexLens.Source
