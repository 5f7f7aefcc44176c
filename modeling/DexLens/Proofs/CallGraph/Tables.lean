import DexLens.Proofs.CallGraph.Gathering
import DexLens.Proofs.CallGraph.Moves

/-! # The tables of a call graph

A graph is coherent when no key stands for two nodes and the graph proper speaks of numbers in the table only. Every
move keeps a graph coherent.
-/

namespace DexLens.CallGraph

open Effect List Build Inspect Graph Node Facts

variable {tell : Node -> Node}

namespace Digraph

/-- All nodes are below a bound and known once, and edges join nodes. -/
structure Sound (d : Digraph) (bound : Nat) : Prop where
 uniq : d.nodes.Nodup
 below : ∀ a ∈ d.nodes, a < bound
 closed : ∀ e ∈ d.edges, e.1 ∈ d.nodes ∧ e.2 ∈ d.nodes

namespace Sound

variable {d : Digraph} {bound u v : Nat}

lemma mono (h : d.Sound bound) (le : bound ≤ larger) : d.Sound larger :=
 ⟨h.uniq, fun a hm => (h.below a hm).trans_le le, h.closed⟩

lemma nodup_keys_ensure (h : (t.map (·.1)).Nodup) (n : Nat) : ((ensure t n).map (·.1)).Nodup := by
 unfold ensure
 split
 · exact h
 · rename_i ha
   rw [map_append]
   refine nodup_append.mpr ⟨h, nodup_singleton n, ?_⟩
   rintro a hm b hs rfl
   obtain ⟨p, ht, rfl⟩ := mem_map.mp hm
   exact ha (any_eq_true.mpr ⟨p, ht, beq_iff_eq.mpr (mem_singleton.mp hs)⟩)

lemma addNode (h : d.Sound bound) (hi : u < bound) : (d.addNode u).Sound bound where
 uniq := nodup_keys_ensure h.uniq u
 below a hm := (mem_nodes_addNode.mp hm).elim (h.below a) (· ▸ hi)
 closed e hm := by
  rw [edges_addNode_eq] at hm
  have old := h.closed e hm
  exact ⟨mem_nodes_addNode.mpr (.inl old.1), mem_nodes_addNode.mpr (.inl old.2)⟩

lemma addEdge (h : d.Sound bound) (hu : u < bound) (hv : v < bound) : (d.addEdge u v).Sound bound where
 uniq := by
  change ((link (ensure (ensure d.succ u) v) u v).map (·.1)).Nodup
  rw [keys_link]
  exact nodup_keys_ensure (nodup_keys_ensure h.uniq u) v
 below a hm := by
  rcases mem_nodes_addEdge.mp hm with old | rfl | rfl
  · exact h.below a old
  · exact hu
  · exact hv
 closed := by
  rintro ⟨a, b⟩ hm
  rcases mem_edges_addEdge.mp hm with old | ⟨rfl, rfl⟩
  · exact ⟨mem_nodes_addEdge.mpr (.inl (h.closed _ old).1), mem_nodes_addEdge.mpr (.inl (h.closed _ old).2)⟩
  · exact ⟨mem_nodes_addEdge.mpr (.inr (.inl rfl)), mem_nodes_addEdge.mpr (.inr (.inr rfl))⟩

end Sound

end Digraph

namespace Graph

/-- No key stands for two nodes, and edges and entries are those of nodes in the table. -/
structure Coherent (g : Graph) : Prop where
 uniq : (g.nodes.map (·.key)).Nodup
 links : g.links.Sound g.nodes.length
 entries : ∀ n ∈ g.entries, n < g.nodes.length

lemma keys_alter (g : Graph) (n : Nat) (ht : Tells tell) : (g.alter n tell).nodes.map (·.key) = g.nodes.map (·.key) := by
 refine ext_getElem? fun i => ?_
 simp only [alter, getElem?_map, getElem?_modify]
 cases g.nodes[i]? with
 | none => rfl
 | some x =>
  by_cases same : n = i
  · simp [same, (ht x).key]
  · simp [same]

namespace Coherent

variable {g : Graph} {u v : Nat}

lemma empty : empty.Coherent :=
 ⟨nodup_nil, ⟨nodup_nil, by simp [Graph.empty, Digraph.empty, Digraph.nodes],
  by simp [Graph.empty, Digraph.empty, Digraph.edges]⟩, by simp [Graph.empty]⟩

lemma ensure (h : g.Coherent) (x : Node) : (g.ensure x).Coherent where
 uniq := by
  by_cases ht : g.HasKey x.key
  · rw [ensure_of_hasKey ht]
    exact h.uniq
  · rw [ensure_of_not_hasKey ht, map_append]
    refine nodup_append.mpr ⟨h.uniq, nodup_singleton _, ?_⟩
    rintro a hm b hs rfl
    obtain ⟨y, hk, rfl⟩ := mem_map.mp hm
    obtain ⟨i, at_i⟩ := getElem?_of_mem hk
    exact ht ⟨i, y, at_i, mem_singleton.mp hs⟩
 links := by
  rw [links_ensure]
  exact h.links.mono (g.length_le_ensure x)
 entries n hm := by
  rw [entries_ensure] at hm
  exact (h.entries n hm).trans_le (g.length_le_ensure x)

lemma alter (h : g.Coherent) (n : Nat) (ht : Tells tell) : (g.alter n tell).Coherent where
 uniq := by
  rw [g.keys_alter n ht]
  exact h.uniq
 links := h.links.mono (g.length_alter n tell).ge
 entries n hm := (h.entries n hm).trans_eq (g.length_alter _ tell).symm

lemma touch (h : g.Coherent) (x : Node) (ht : Tells tell) : (g.touch x tell).Coherent := (h.ensure x).alter _ ht

lemma join (h : g.Coherent) (hu : u < g.nodes.length) (hv : v < g.nodes.length) : (g.join u v).Coherent :=
 ⟨h.uniq, h.links.addEdge hu hv, h.entries⟩

lemma hangBelow (h : g.Coherent) (hu : u < g.nodes.length) (x : Node) (ht : Tells tell) :
  (g.hangBelow u x tell).Coherent :=
 (h.touch x ht).join (hu.trans_le (g.length_le_touch x tell)) (g.slot_lt_touch x tell)

lemma standAbove (h : g.Coherent) (hu : u < g.nodes.length) (x : Node) (ht : Tells tell) :
  (g.standAbove u x tell).Coherent :=
 (h.touch x ht).join (g.slot_lt_touch x tell) (hu.trans_le (g.length_le_touch x tell))

end Coherent

lemma Move.coherent {g h : Graph} (move : g.Move lax allows h) (hb : g.Coherent) : h.Coherent := by
 cases move with
 | @settle x tell _ hl =>
  have ht := hb.touch x hl
  exact ⟨ht.uniq, ht.links.addNode (g.slot_lt_touch x tell), ht.entries⟩
 | below hi _ hl => exact hb.hangBelow hi _ hl
 | above hi _ hl => exact hb.standAbove hi _ hl
 | @pair x y =>
  exact ((hb.ensure x).ensure y).join (slot_lt_ensure _ y)
   ((g.slot_lt_ensure x).trans_le (length_le_ensure _ y))
 | join hu hv => exact hb.join hu hv
 | @enter u hi =>
  refine ⟨hb.uniq, hb.links, fun n hm => ?_⟩
  rcases mem_append.mp hm with old | new
  · exact hb.entries n old
  · exact mem_singleton.mp new ▸ hi
 | slip => exact hb.touch _ (tells_asking _ _)

lemma Moves.coherent {g h : Graph} (hm : g.Moves lax allows h) : g.Coherent -> h.Coherent := hm.keep Move.coherent

lemma Coherent.find_iff (h : g.Coherent) {key i} :
  play (find? key) g = (.ok (some i), g) ↔ ∃ x, g.nodes[i]? = some x ∧ x.key = key := by
 rw [play_find]
 constructor
 · intro hn
   exact of_findIdx (Except.ok.inj (Prod.mk.inj hn).1)
 · rintro ⟨x, at_i, rfl⟩
   obtain ⟨hi, rfl⟩ := List.getElem?_eq_some_iff.mp at_i
   have hf : g.nodes.findIdx? (·.key == g.nodes[i].key) = some i := by
    refine findIdx?_eq_some_iff_getElem.mpr ⟨hi, beq_iff_eq.mpr rfl, fun j hb => ?_⟩
    rw [beq_iff_eq]
    intro same
    have he : (g.nodes.map (·.key))[j]? = (g.nodes.map (·.key))[i]? := by
     rw [getElem?_map, getElem?_map, getElem?_eq_getElem (hb.trans hi),
      getElem?_eq_getElem hi, Option.map_some, Option.map_some, same]
    have hs : j < (g.nodes.map (·.key)).length := by simpa using hb.trans hi
    exact absurd ((getElem?_inj hs h.uniq).mp he) hb.ne
   rw [hf]

end Graph

/-! ## Operations -/

/-- What can be done to a call graph. -/
inductive Op where
 | file (code : Dex.File) (parts : Option Components)
 | invoke (src hop dst : Sig)
 | making (src hop dst : Sig)
 | load (src hop : Sig) (filename : String)

/-- Carry an operation out. -/
def Op.perform (needs : Needs) : Op -> Build Unit
 | .file code parts =>
  match of needs code with
  | .ok facts => addFile facts parts
  | .error fault => throw fault
 | .invoke src hop dst => addInvocation needs.calls src hop dst
 | .making src hop dst => addInstantiation needs.calls src hop dst
 | .load src hop filename => addLoad src hop filename

lemma Op.changes (needs : Needs) (op : Op) : Keeps Changes (op.perform needs) := by
 intro g
 cases op with
 | file code parts =>
  cases hc : of needs code with
  | ok facts =>
   simp only [perform, hc]
   exact changes_addFile facts parts g
  | error fault =>
   simp only [perform, hc]
   exact refl g
 | invoke | making => exact changes_addReflected _ _ _ _ _ _ _ g
 | load => exact moves_addLoad trivial _ _ g

namespace Graph

variable (needs : Needs) (g : Graph) (ops : List Op) (op : Op)

/-- The graph that an operation leaves, however it ends. -/
def after : Graph := (play (op.perform needs) g).2

/-- The graph that a sequence of operations leaves. -/
def run : Graph := ops.foldl (after needs) g

lemma run_append : g.run needs (ops ++ [op]) = (g.run needs ops).after needs op := foldl_concat _ _ _ _

lemma run_keeps {P : Graph -> Prop} {needs} (step : ∀ g op, P g -> P (g.after needs op)) {g}
  (hs : P g) (ops : List Op) : P (g.run needs ops) := by
 induction ops generalizing g with
 | nil => exact hs
 | cons op ops ih => exact ih (step g op hs)

lemma coherent_run : (empty.run needs ops).Coherent := run_keeps (fun g op hb => (op.changes needs g).coherent hb) .empty ops

end Graph

end DexLens.CallGraph
