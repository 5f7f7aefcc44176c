import DexLens.CallGraph.Gexf
import DexLens.Proofs.CallGraph.Tables

/-! # What is counted and what is exported

A node enters the table before it gets its place in the graph proper, and only nodes with a place are exported.
Moves leave no node behind; a slip can. So the numbers of nodes agree as long as no permission without a level is
charted for the first time.
-/

namespace DexLens.CallGraph

open Effect Graph List Node Sample Digraph Inspect Build String

variable (needs : Needs)

namespace Graph

variable {g h : Graph}

/-- Every node of the table has its place in the graph proper. -/
def Complete (g : Graph) : Prop := ∀ i < g.nodes.length, i ∈ g.links.nodes

def Loose (g : Graph) (i : Nat) (x : Node) : Prop := g.nodes[i]? = some x ∧ i ∉ g.links.nodes

lemma complete_iff : g.Complete ↔ ∀ i x, ¬ g.Loose i x := by
 constructor
 · rintro hc i x ⟨at_i, hl⟩
   exact hl (hc i (List.getElem?_eq_some_iff.mp at_i).1)
 · intro none i hi
   by_contra hl
   exact none i g.nodes[i] ⟨getElem?_eq_getElem hi, hl⟩

lemma Coherent.nodeCount_eq_iff (hc : g.Coherent) : g.nodeCount = g.nodes.length ↔ g.Complete := by
 have hw : g.links.nodes ⊆ range g.nodes.length := fun i hm => mem_range.mpr (hc.links.below i hm)
 have few : g.links.nodes.Subperm (range g.nodes.length) := subperm_of_subset hc.links.uniq hw
 constructor
 · intro same i hi
   have all : g.links.nodes.Perm (range g.nodes.length) := few.perm_of_length_le (by rw [length_range]; exact same.ge)
   exact all.mem_iff.mpr (mem_range.mpr hi)
 · intro hp
   have many : (range g.nodes.length).Subperm g.links.nodes :=
    subperm_of_subset nodup_range fun i hm => hp i (mem_range.mp hm)
   exact (few.antisymm many).length_eq.trans length_range

namespace Loose

variable {i n u v : Nat} {x y : Node}

lemma of_place (hl : (g.place n).Loose i x) : g.Loose i x ∧ i ≠ n :=
 ⟨⟨hl.1, fun hp => hl.2 (mem_nodes_addNode.mpr (.inl hp))⟩, fun same => hl.2 (mem_nodes_addNode.mpr (.inr same))⟩

lemma of_join (hl : (g.join u v).Loose i x) : g.Loose i x ∧ i ≠ u ∧ i ≠ v :=
 ⟨⟨hl.1, fun hp => hl.2 (mem_nodes_addEdge.mpr (.inl hp))⟩, fun same => hl.2 (mem_nodes_addEdge.mpr (.inr (.inl same))),
  fun same => hl.2 (mem_nodes_addEdge.mpr (.inr (.inr same)))⟩

lemma of_ensure (hl : (g.ensure y).Loose i x) (ho : i ≠ g.slot y.key) : g.Loose i x := by
 obtain ⟨at_i, hu⟩ := hl
 rw [getElem?_ensure_of_ne ho] at at_i
 rw [links_ensure] at hu
 exact ⟨at_i, hu⟩

lemma of_touch {tell} (hl : (g.touch y tell).Loose i x) (ho : i ≠ g.slot y.key) : g.Loose i x := by
 obtain ⟨at_i, hu⟩ := hl
 rw [getElem?_touch_of_ne ho] at at_i
 rw [links_touch] at hu
 exact ⟨at_i, hu⟩

end Loose

lemma Move.loose (move : g.Move lax allows h) (hl : h.Loose i x) : g.Loose i x ∨
  lax ∧ ∃ key perm m, h = g.touch (.ofPermission key perm) (.asking m perm) := by
 cases move with
 | settle =>
  obtain ⟨hl, ho⟩ := hl.of_place
  exact .inl (hl.of_touch ho)
 | below =>
  obtain ⟨hl, -, ho⟩ := hl.of_join
  exact .inl (hl.of_touch ho)
 | above =>
  obtain ⟨hl, ho, -⟩ := hl.of_join
  exact .inl (hl.of_touch ho)
 | pair =>
  obtain ⟨hl, ht, ho⟩ := hl.of_join
  exact .inl ((hl.of_ensure ht).of_ensure ho)
 | join => exact .inl hl.of_join.1
 | enter => exact .inl hl
 | slip hs => exact .inr ⟨hs, _, _, _, rfl⟩

lemma Leads.loose (hm : g.Leads h) (hl : h.Loose i x) : g.Loose i x :=
 hm.keep (P := (·.Loose i x -> g.Loose i x))
  (fun move hb late => hb ((move.loose late).resolve_right And.left)) id hl

lemma Leads.complete (hm : g.Leads h) (hc : g.Complete) : h.Complete :=
 complete_iff.mpr fun i x hl => complete_iff.mp hc i x (hm.loose hl)

def OnlyPermissionsLoose (g : Graph) : Prop := ∀ i x, g.Loose i x -> x.kind = .permission ∧ x.real = false ∧ x.level = none

lemma Move.onlyPermissionsLoose (move : g.Move lax allows h) (hb : g.OnlyPermissionsLoose) :
  h.OnlyPermissionsLoose := by
 intro i x hl
 obtain old | ⟨-, key, perm, m, rfl⟩ := move.loose hl
 · exact hb i x old
 by_cases ho : i = g.slot key
 · obtain ⟨at_i, hu⟩ := hl
   rw [links_touch, ho] at hu
   -- The node is told nothing about its level, so it is as it was or as it is made.
   obtain ⟨y, told, -, ha | ⟨-, rfl⟩⟩ := g.getElem?_touch (.ofPermission key perm) (.asking m perm)
   · obtain rfl : y.asking m perm = x := Option.some.inj (told.symm.trans (ho ▸ at_i))
     exact hb _ y ⟨ha, hu⟩
   · obtain rfl : (ofPermission key perm).asking m perm = x := Option.some.inj (told.symm.trans (ho ▸ at_i))
     exact ⟨rfl, rfl, rfl⟩
 · exact hb i x (hl.of_touch ho)

lemma onlyPermissionsLoose_run (ops : List Op) : (empty.run needs ops).OnlyPermissionsLoose:=
 run_keeps (fun g op => (op.changes needs g).keep Move.onlyPermissionsLoose) (fun i x hl => by simp [Loose, empty] at hl) ops

/-! ## The exported text -/

def nodeLines (i : Nat) (x : Node) : String :=
 s!"<node id=\"{i}\" label=\"{Listing.markup x.label}\">\n" ++ x.gexf ++ "</node>\n"

/-- The exported text shows a node under its number. -/
def Exports (g : Graph) (i : Nat) (x : Node) : Prop := ∃ before after, g.gexf = before ++ nodeLines i x ++ after

lemma contains_append (s r : String) : (∃ before after, t = before ++ u ++ after) ->
  ∃ before after, s ++ t ++ r = before ++ u ++ after := by
 rintro ⟨before, after, rfl⟩
 exact ⟨s ++ before, after ++ r, by simp only [String.append_assoc]⟩

lemma contains_block (label : String) (kvs : List (String × String)) :
  (∃ before after, t = before ++ u ++ after) -> ∃ before after, Markup.block label kvs t = before ++ u ++ after := by
 intro hi
 have all := contains_append (Markup.tag label kvs ++ ">\n") ("</" ++ label ++ ">\n") hi
 simpa only [Markup.block, String.append_assoc] using all

lemma exports_of_placed (at_i : g.nodes[i]? = some x) (hp : i ∈ g.links.nodes) : g.Exports i x := by
 have own : Markup.block "node" [("id", toString i), ("label", Listing.markup x.label)] x.gexf = nodeLines i x := by
  have same (t : String) : toString t = t := rfl
  rw [<- toList_inj]
  simp [Markup.block, Markup.tag, nodeLines, same]
 have hl : (i, x) ∈ g.listed := mem_map.mpr ⟨i, hp, by simp [at_i]⟩
 obtain ⟨ms, ns, hs⟩ := append_of_mem hl
 have hj : ∃ before after, .join (g.listed.map fun n =>
   Markup.block "node" [("id", toString n.1), ("label", Listing.markup n.2.label)] n.2.gexf) = before ++ nodeLines i x ++ after := by
  rw [hs, map_append, map_cons]
  simp only [own, join_append, join_cons, <- String.append_assoc]
  exact ⟨_, _, rfl⟩
 obtain ⟨before, after, all⟩ :=
  contains_block "gexf" _ (contains_block "graph" _ (contains_append _ _ (contains_block "nodes" [] hj)))
 refine ⟨"<?xml version=\"1.0\" encoding=\"UTF-8\"?>\n" ++ before, after, ?_⟩
 rw [String.append_assoc, String.append_assoc, <- all.trans String.append_assoc]
 rfl

/-! ## Slips -/

/-- By the rules, a method needs a permission that has no level and no node. -/
def Lacks (g : Graph) (rules : Rules) (hop dst : Sig) : Prop :=
 ∃ perm, rules.lookup dst.rule = some perm ∧ Permission.level? perm = none ∧
  ¬ g.HasKey (Build.markKey hop dst "PERMISSION" ++ " " ++ perm)

lemma complete_touch_iff (hh : g.Coherent) (hm : g.Complete) (x : Node) (tell : Node -> Node) :
  (g.touch x tell).Complete ↔ g.HasKey x.key := by
 constructor
 · intro hc
   by_contra ha
   -- The new node is the last one, and the graph proper knows nothing of it.
   have hp := hc (g.slot x.key) (g.slot_lt_touch x tell)
   rw [links_touch, slot_of_not_hasKey ha] at hp
   exact (hh.links.below _ hp).false
 · intro ht i hi
   rw [touch, length_alter, ensure_of_hasKey ht] at hi
   rw [links_touch]
   exact hm i hi

lemma permissionKey_ne (hop dst : Sig) (perm : String) :
  Build.markKey hop dst "PERMISSION" ++ " " ++ perm ≠ dst.key ∧
   Build.markKey hop dst "PERMISSION" ++ " " ++ perm ≠ dst.cls := by
 have hl : dst.key.length < (markKey hop dst "PERMISSION" ++ " " ++ perm).length := by
  simp only [markKey, String.length_append]
  have one : " ".length = 1 := rfl
  omega
 have hs : dst.cls.length ≤ dst.key.length := by
  simp only [Sig.key, String.length_append]
  omega
 constructor
 · intro same
   rw [same] at hl
   exact hl.false
 · intro same
   rw [same] at hl
   omega

lemma lacks_touch_iff {rules hop dst x tell} (ht : Tells tell) (own : x.key = dst.key ∨ x.key = dst.cls) :
  (g.touch x tell).Lacks rules hop dst ↔ g.Lacks rules hop dst := by
 have ho : ∀ perm, markKey hop dst "PERMISSION" ++ " " ++ perm ≠ x.key := by
  intro perm same
  rcases own with key | cls
  · exact (permissionKey_ne hop dst perm).1 (same.trans key)
  · exact (permissionKey_ne hop dst perm).2 (same.trans cls)
 simp only [Lacks, hasKey_touch_iff ht, ho, or_false]

end Graph

namespace Build

variable {g : Graph}

lemma complete_addNeeded_iff (hh : g.Coherent) (hc : g.Complete) (rules : Rules)
  (hop dst : Sig) (hi : n < g.nodes.length) :
  (play (addNeeded rules hop dst n) g).2.Complete ↔ ¬ g.Lacks rules hop dst := by
 cases hn : rules.lookup dst.rule with
 | none =>
  rw [play_addNeeded_none hn]
  simp [Lacks, hn, hc]
 | some perm =>
  rw [play_addNeeded_some hn]
  cases hl : Permission.level? perm with
  | none =>
   rw [play_require_unknown hl, complete_touch_iff hh hc]
   simp [Lacks, hn, hl, ofPermission, blank]
  | some l =>
   rw [play_require_known hl]
   exact iff_of_true (Leads.complete (Move.below hi trivial (tells_granting dst perm l)).moves hc)
    (by simp [Lacks, hn, hl])

lemma lacks_reach_iff (g : Graph) (u : Nat) (kind : NodeKind) (created : Bool) (rules : Rules) (hop dst : Sig) :
  (g.reach u kind created dst).Lacks rules hop dst ↔ g.Lacks rules hop dst := by
 have same : (g.touch (.ofMethod kind dst) (.owned dst)).Lacks rules hop dst ↔ g.Lacks rules hop dst :=
  lacks_touch_iff (tells_owned dst) (.inl rfl)
 cases created with
 | false => exact same
 | true => exact (lacks_touch_iff
   (tells_inClass dst.cls) (.inr rfl)).trans same

lemma complete_addReflected_iff (hh : g.Coherent) (hc : g.Complete) (kind : NodeKind) (mark : String)
  (created : Bool) (rules : Rules) (src hop dst : Sig) :
  (play (addReflected kind mark created rules src hop dst) g).2.Complete ↔
   ¬ (g.HasKey (markKey src hop mark) ∧ g.Lacks rules hop dst) := by
 by_cases hm : g.HasKey (markKey src hop mark)
 · let u := g.slot (markKey src hop mark)
   have hl : g.Leads (g.reach u kind created dst) := moves_reach (slot_lt_iff.mpr hm) trivial fun _ => trivial
   obtain ⟨y, at_slot, -⟩ := g.at_slot_reach u kind created dst
   rw [play_addReflected hm, and_iff_right hm, <- lacks_reach_iff g u kind created]
   exact complete_addNeeded_iff (hl.coherent hh) (hl.complete hc) rules hop dst
    (List.getElem?_eq_some_iff.mp at_slot).1
 · rw [addReflected, play_seek_none hm]
   exact iff_of_true hc (hm ·.1)

end Build

/-- The operation charts a permission without a level for the first time. -/
def Op.Strands (g : Graph) : Op -> Prop
 | .file .. => False
 | .invoke src hop dst =>
  g.HasKey (Build.markKey src hop "REFL_INVOKE") ∧ g.Lacks needs.calls hop dst
 | .making src hop dst =>
  g.HasKey (Build.markKey src hop "REFL_NEWINSTANCE") ∧ g.Lacks needs.calls hop dst
 | .load .. => False

namespace Graph

/-- An operation on a complete graph leaves a complete graph unless it strands a permission. -/
lemma complete_after_iff (hh : g.Coherent) (hc : g.Complete) (op : Op) :
  (g.after needs op).Complete ↔ ¬ op.Strands needs g := by
 unfold after
 cases op with
 | file code parts =>
  refine iff_of_true ?_ not_false
  cases hn : Facts.of needs code with
  | ok facts =>
   obtain ⟨w, hy⟩ := Facts.yields_of hn
   simp only [Op.perform, hn]
   exact (leads_addFile (fun pc hm => (hy.protected' pc hm).1) parts g).complete hc
  | error fault =>
   simp only [Op.perform, hn]
   exact hc
 | invoke | making => exact complete_addReflected_iff hh hc ..
 | load src hop filename =>
  exact iff_of_true ((leads_addLoad src hop filename g).complete hc) not_false

/-- Every node that counts as code or as protected is exported. All nodes of the table are in the graph proper, and
    are counted, exactly when no operation before charts a permission without a level for the first time. -/
theorem statistics_agree (needs : Needs) (ops : List Op) :
  (∀ i x, (empty.run needs ops).nodes[i]? = some x -> x.real ∨ x.level.isSome ->
   i ∈ (empty.run needs ops).links.nodes ∧ (empty.run needs ops).Exports i x) ∧
  ((∀ done, done <+: ops -> (empty.run needs done).Complete ∧
    (empty.run needs done).nodeCount = (empty.run needs done).nodes.length) ↔
   ∀ done op, done ++ [op] <+: ops -> ¬ op.Strands needs (empty.run needs done)) := by
 constructor
 · intro i x at_i hn
   have hp : i ∈ (empty.run needs ops).links.nodes := by
    by_contra hu
    obtain ⟨-, mark, free⟩ := onlyPermissionsLoose_run needs ops i x ⟨at_i, hu⟩
    simp [mark, free] at hn
   exact ⟨hp, exports_of_placed at_i hp⟩
 · constructor
   · intro ha done op hb
     have here := (ha done ((prefix_append done [op]).trans hb)).1
     have next := (ha (done ++ [op]) hb).1
     rw [run_append] at next
     exact (complete_after_iff needs (coherent_run needs done) here op).mp next
   · intro hv done hb
     suffices hc : (empty.run needs done).Complete from
      ⟨hc, (coherent_run needs done).nodeCount_eq_iff.mpr hc⟩
     induction done using reverseRecOn with
     | nil => exact fun i hi => absurd hi (Nat.not_lt_zero i)
     | append_singleton done op ih =>
      rw [run_append]
      have here := ih ((prefix_append done [op]).trans hb)
      exact (complete_after_iff needs (coherent_run needs done) here op).mpr (hv done op hb)

set_option maxRecDepth 100000 in
/-- A permission that no manifest can ask for gets a node which is counted nowhere. -/
theorem unknown_permission_uncounted : ((empty.run ⟨[("LB;-<init>-()V", "no.such.PERMISSION")], []⟩ [.file (code 44) none,
   .making method byClass created]).nodeCount,
   (empty.run ⟨[("LB;-<init>-()V", "no.such.PERMISSION")], []⟩ [.file (code 44) none,
    .making method byClass created]).nodes.length) = (4, 5) := by
 decide +kernel

end Graph

end DexLens.CallGraph
