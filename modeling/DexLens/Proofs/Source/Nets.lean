import DexLens.Proofs.Lookup
import DexLens.Source.Net

/-! # Nets

Edges are known at both of their ends, whatever is put in and taken out. The order of a net lists all nodes that its
entry leads to: a search that is deep enough leaves nothing out.
-/

namespace DexLens.Source.Net

open List

/-- A net after any steps from the empty one, and the nodes it has lost. A node is new when it is put in; what is
    not there can be taken out in vain. -/
inductive Made : List Nat -> Net -> Prop where
 | empty : Made [] Net.empty
 | addNode : Made gone g -> n ∉ g.nodes -> n ∉ gone -> Made gone (g.addNode n)
 | addEdge : Made gone g -> a ∈ g.nodes -> b ∈ g.nodes -> Made gone (g.addEdge a b)
 | removeNode (n : Nat) : Made gone g -> Made (if n ∈ g.nodes then n :: gone else gone) (g.removeNode n)

variable {g : Net} {gone : List Nat} {depth : Nat}

def Leads (g : Net) : Nat -> Nat -> Prop := Relation.ReflTransGen fun a b => b ∈ g.succs a

/-- Edges are known at both of their ends, which are nodes. -/
structure Linked (g : Net) : Prop where
 mirrored : ∀ a b, b ∈ g.succs a ↔ a ∈ g.preds b
 inside : ∀ a b, b ∈ g.succs a -> a ∈ g.nodes ∧ b ∈ g.nodes

/-! ## Adding nodes and edges -/

lemma getD_update (t : List (Nat × List Nat)) (k : Nat) (f : List Nat -> List Nat) (l : Nat) :
  ((update t k f).lookup l).getD [] = if l = k then f ((t.lookup k).getD []) else (t.lookup l).getD [] := by
 rw [update, revise, Lookup.write]
 split
 · cases t.lookup k <;> rfl
 · rfl

lemma succs_addEdge (g : Net) (a b c : Nat) :
  (g.addEdge a b).succs c = if c = a then including b (g.succs a) else g.succs c := getD_update g.next a _ c

lemma preds_addEdge (g : Net) (a b c : Nat) :
  (g.addEdge a b).preds c = if c = b then including a (g.preds b) else g.preds c := getD_update g.prev b _ c

lemma mem_lookup_update : m ∈ ((update t k (including n)).lookup l).getD [] ↔
  m ∈ (t.lookup l).getD [] ∨ l = k ∧ m = n := by
 rw [getD_update]
 by_cases here : l = k <;> simp [here, including, Lookup.mem_including]

lemma mem_succs_addEdge : d ∈ (g.addEdge a b).succs c ↔ d ∈ g.succs c ∨ c = a ∧ d = b := mem_lookup_update

lemma mem_preds_addEdge : c ∈ (g.addEdge a b).preds d ↔ c ∈ g.preds d ∨ d = b ∧ c = a := mem_lookup_update

namespace Linked

lemma empty : Net.empty.Linked := ⟨by simp [succs, preds, Net.empty], by simp [succs, Net.empty]⟩

lemma addNode (hl : g.Linked) (n : Nat) : (g.addNode n).Linked where
 mirrored := hl.mirrored
 inside a b edge :=
  ⟨mem_append_left _ (hl.inside a b edge).1, mem_append_left _ (hl.inside a b edge).2⟩

lemma addEdge (hl : g.Linked) (hf : a ∈ g.nodes) (hs : b ∈ g.nodes) : (g.addEdge a b).Linked where
 mirrored c d := by
  rw [mem_succs_addEdge, mem_preds_addEdge, hl.mirrored]
  tauto
 inside c d edge := by
  rcases mem_succs_addEdge.mp edge with old | ⟨rfl, rfl⟩
  · exact hl.inside c d old
  · exact ⟨hf, hs⟩

end Linked

/-! ## Removing nodes -/

lemma getD_erased {ks : List Nat} (hn : ks.Nodup) (t : List (Nat × List Nat)) (n l : Nat) :
  ((ks.foldl (update · · (·.erase n)) t).lookup l).getD [] =
   if l ∈ ks then ((t.lookup l).getD []).erase n else (t.lookup l).getD [] := by
 induction ks generalizing t with
 | nil => simp
 | cons k ks ih =>
  obtain ⟨hk, hn⟩ := nodup_cons.mp hn
  rw [foldl_cons, ih hn, getD_update]
  by_cases own : l = k
  · simp [own, hk]
  · simp [own]

lemma succs_removeNode (hp : (g.preds n).Nodup) (c : Nat) :
  (g.removeNode n).succs c = if c ∈ g.preds n then (g.succs c).erase n else g.succs c := getD_erased hp g.next n c

lemma preds_removeNode (hs : ((g.removeNode n).succs n).Nodup) (c : Nat) : (g.removeNode n).preds c =
  if c = n then [] else if c ∈ (g.removeNode n).succs n then (g.preds c).erase n else g.preds c := by
 refine (getD_erased hs (g.prev.filter (·.1 != n)) n c).trans ?_
 rw [Lookup.filter_of_key]
 by_cases same : c = n
 · simp [same]
 · simp [same, preds]

/-- What is known of a net all of whose edges were put between nodes that it had then. A node that is gone keeps its
    ways out on record, but no node knows it any more. -/
structure Paired (gone : List Nat) (g : Net) : Prop where
 nodes : g.nodes.Nodup
 lost : ∀ n ∈ gone, n ∉ g.nodes
 mirrored : ∀ a ∈ g.nodes, ∀ b, b ∈ g.succs a ↔ a ∈ g.preds b
 inside : ∀ a b, a ∈ g.preds b -> a ∈ g.nodes ∧ b ∈ g.nodes
 once : ∀ a, (g.succs a).Nodup ∧ (g.preds a).Nodup
 unknown : ∀ a, a ∉ g.nodes -> a ∉ gone -> g.succs a = []

namespace Paired

lemma empty : Paired [] Net.empty where
 nodes := nodup_nil
 lost := nofun
 mirrored := nofun
 inside a b hp := by simp [preds, Net.empty] at hp
 once a := by simp [succs, preds, Net.empty]
 unknown a _ _ := rfl

variable (hg : Paired gone g)

include hg

lemma addNode (hn : n ∉ g.nodes) (hu : n ∉ gone) : Paired gone (g.addNode n) where
 nodes := by
  rw [Net.addNode, <- concat_eq_append]
  exact hg.nodes.concat hn
 lost m hm := by
  have : m ≠ n := fun same => hu (same ▸ hm)
  simpa [Net.addNode, this] using hg.lost m hm
 mirrored a ha b := by
  rcases mem_append.mp ha with old | new
  · exact hg.mirrored a old b
  · -- A new node has no edges yet.
    obtain rfl := mem_singleton.mp new
    refine iff_of_false ?_ fun hp => hn (hg.inside a b hp).1
    change b ∉ g.succs a
    simp [hg.unknown a hn hu]
 inside a b hp := (hg.inside a b hp).imp (mem_append_left _) (mem_append_left _)
 once := hg.once
 unknown a ha := hg.unknown a fun old => ha (mem_append_left _ old)

lemma addEdge (ha : a ∈ g.nodes) (hb : b ∈ g.nodes) : Paired gone (g.addEdge a b) where
 nodes := hg.nodes
 lost := hg.lost
 mirrored c hc d := by
  rw [mem_succs_addEdge, mem_preds_addEdge, hg.mirrored c hc]
  tauto
 inside c d hp := by
  rcases mem_preds_addEdge.mp hp with old | ⟨rfl, rfl⟩
  · exact hg.inside c d old
  · exact ⟨ha, hb⟩
 once c := by
  have including {x : Nat} {xs : List Nat} (hn : xs.Nodup) : (including x xs).Nodup := by
   rw [Net.including]
   split
   · exact hn
   · next hx => exact concat_eq_append ▸ hn.concat (by simpa using hx)
  constructor
  · rw [succs_addEdge]
    split
    · exact including (hg.once a).1
    · exact (hg.once c).1
  · rw [preds_addEdge]
    split
    · exact including (hg.once b).2
    · exact (hg.once c).2
 unknown c hc hu := by
  rw [succs_addEdge, if_neg fun same : c = a => hc (same ▸ ha)]
  exact hg.unknown c hc hu

lemma nodup_succs (n c : Nat) : ((g.removeNode n).succs c).Nodup := by
 rw [succs_removeNode (hg.once n).2]
 split
 · exact (hg.once c).1.erase n
 · exact (hg.once c).1

lemma mem_succs_removeNode (ha : a ∈ g.nodes) : b ∈ (g.removeNode n).succs a ↔ b ∈ g.succs a ∧ b ≠ n := by
 have hn := hg.mirrored a ha n
 rw [succs_removeNode (hg.once n).2]
 split
 · rw [(hg.once a).1.mem_erase_iff, and_comm]
 · next hu => exact ⟨fun hb => ⟨hb, fun same => hu (hn.mp (same ▸ hb))⟩, And.left⟩

lemma mem_preds_removeNode : a ∈ (g.removeNode n).preds b ↔ a ∈ g.preds b ∧ a ≠ n ∧ b ≠ n := by
 rw [preds_removeNode (hg.nodup_succs n n)]
 by_cases same : b = n
 · simp [same]
 rw [if_neg same]
 split
 · rw [(hg.once b).2.mem_erase_iff]
   tauto
 · next hb =>
    refine ⟨fun hp => ⟨hp, ?_, same⟩, And.left⟩
    rintro rfl
    have ha := (hg.inside a b hp).1
    exact hb ((hg.mem_succs_removeNode ha).mpr ⟨(hg.mirrored a ha b).mpr hp, same⟩)

lemma removeNode (n : Nat) : Paired (if n ∈ g.nodes then n :: gone else gone) (g.removeNode n) where
 nodes := hg.nodes.erase n
 lost m hm := by
  change m ∉ g.nodes.erase n
  rw [hg.nodes.mem_erase_iff]
  split at hm
  · rcases mem_cons.mp hm with rfl | old
    · exact (·.1 rfl)
    · exact (hg.lost m old ·.2)
  · exact (hg.lost m hm ·.2)
 mirrored a ha b := by
  obtain ⟨other, node⟩ := hg.nodes.mem_erase_iff.mp ha
  rw [hg.mem_succs_removeNode node, hg.mem_preds_removeNode, hg.mirrored a node]
  tauto
 inside a b hp := by
  obtain ⟨old, ha, hb⟩ := hg.mem_preds_removeNode.mp hp
  obtain ⟨na, nb⟩ := hg.inside a b old
  exact ⟨hg.nodes.mem_erase_iff.mpr ⟨ha, na⟩, hg.nodes.mem_erase_iff.mpr ⟨hb, nb⟩⟩
 once a := by
  rw [preds_removeNode (hg.nodup_succs n n)]
  refine ⟨hg.nodup_succs n a, ?_⟩
  split_ifs
  · exact nodup_nil
  · exact (hg.once a).2.erase n
  · exact (hg.once a).2
 unknown a ha hu := by
  have known : a ∉ g.nodes ∧ a ∉ gone := by
   split at hu
   · next hn =>
      obtain ⟨other, hu⟩ := not_or.mp (mt mem_cons.mpr hu)
      exact ⟨fun node => ha (hg.nodes.mem_erase_iff.mpr ⟨other, node⟩), hu⟩
   · next hn => exact ⟨fun node => ha ((erase_of_not_mem hn).symm ▸ node : a ∈ g.nodes.erase n), hu⟩
  rw [succs_removeNode (hg.once n).2, hg.unknown a known.1 known.2]
  simp

end Paired

lemma Made.paired (made : Made gone g) : Paired gone g := by
 induction made with
 | empty => exact .empty
 | addNode _ hn hu ih => exact ih.addNode hn hu
 | addEdge _ ha hb ih => exact ih.addEdge ha hb
 | removeNode n _ ih => exact ih.removeNode n

theorem edges_converse (made : Made gone g) (ha : a ∈ g.nodes) (b : Nat) :
  (b ∈ g.succs a ↔ a ∈ g.preds b) ∧ (g.succs a).Nodup ∧ (g.preds b).Nodup ∧
   ∀ n ∈ gone, n ∉ g.succs a ∧ n ∉ g.preds b := by
 have hg := made.paired
 refine ⟨hg.mirrored a ha b, (hg.once a).1, (hg.once b).2, fun n hn => ⟨fun hs => ?_, fun hp => ?_⟩⟩
 · exact hg.lost n hn (hg.inside a n ((hg.mirrored a ha n).mp hs)).2
 · exact hg.lost n hn (hg.inside n b hp).1

/-- Node 1 leads to itself and to a node that stays, and is taken out. -/
theorem edges_converse_loop :
  let g := ((((((empty.addNode 0).addNode 1).addNode 2).addEdge 0 1).addEdge 1 1).addEdge 1 2).addEdge 0 2
  let h := g.removeNode 1
  h.succs 1 = [2] ∧ (2 ∈ h.succs 0 ↔ 0 ∈ h.preds 2) ∧ 1 ∉ h.preds 2 := by
 intro g h
 have nodes : Made [] (((empty.addNode 0).addNode 1).addNode 2) :=
  ((Made.empty.addNode (n := 0) (by decide) nofun).addNode (n := 1) (by decide) nofun).addNode (n := 2) (by decide) nofun
 have edges : Made [] g := by
  refine (((nodes.addEdge ?_ ?_).addEdge ?_ ?_).addEdge ?_ ?_).addEdge ?_ ?_ <;> decide
 obtain ⟨same, -, -, free⟩ := edges_converse (edges.removeNode 1) (a := 0) (by decide) 2
 exact ⟨by decide, same, (free 1 (by decide)).2⟩

/-! ## Depth first -/

/-- The nodes with ways out that a search has not seen. -/
def unseen (g : Net) (seen : List Nat) : List Nat := (g.next.map (·.1)).dedup.filter (· ∉ seen)

lemma length_unseen_le (more : ∀ n ∈ seen, n ∈ seen') : (g.unseen seen').length ≤ (g.unseen seen).length := by
 refine (monotone_filter_right _ fun n hf => ?_).length_le
 simp only [decide_eq_true_eq] at hf ⊢
 exact fun he => hf (more n he)

lemma length_unseen_cons (hs : g.succs n ≠ []) (hf : n ∉ seen) : (g.unseen (n :: seen)).length < (g.unseen seen).length := by
 have rest : g.unseen (n :: seen) = (g.unseen seen).erase n := by
  rw [unseen, unseen, ((nodup_dedup _).filter _).erase_eq_filter, filter_filter]
  refine filter_congr fun m _ => Bool.eq_iff_iff.mpr ?_
  simp
 have hm : n ∈ g.unseen seen := by
  refine mem_filter.mpr ⟨mem_dedup.mpr (by_contra fun ho => hs ?_), by simpa using hf⟩
  rw [succs, Lookup.eq_none_of_not_mem ho]
  rfl
 rw [rest, length_erase_of_mem hm]
 exact Nat.sub_lt (length_pos_of_mem hm) one_pos

/-- A search has finished all that it has seen since, and it has seen what those lead to. -/
structure Searched (g : Net) (s t : List Nat × List Nat) : Prop where
 seen : ∀ n ∈ s.1, n ∈ t.1
 finished : ∀ n, n ∈ t.2 ↔ n ∈ s.2 ∨ n ∈ t.1 ∧ n ∉ s.1
 closed : ∀ n ∈ t.1, n ∉ s.1 -> ∀ m ∈ g.succs n, m ∈ t.1
 once : (∀ n ∈ s.2, n ∈ s.1) -> s.2.Nodup -> t.2.Nodup

namespace Searched

lemma refl (s : List Nat × List Nat) : Searched g s s := ⟨fun _ he => he, by simp, fun _ he hf => absurd he hf, fun _ hn => hn⟩

lemma trans (hf : Searched g s t) (hs : Searched g t u) : Searched g s u where
 seen n he := hs.seen n (hf.seen n he)
 finished n := by
  have hm := hf.seen n
  have hr := hs.seen n
  rw [hs.finished, hf.finished]
  tauto
 closed n hi hh m edge := by
  by_cases he : n ∈ t.1
  · exact hs.seen m (hf.closed n he hh m edge)
  · exact hs.closed n hi he m edge
 once hk hn := by
  refine hs.once (fun n hi => ?_) (hf.once hk hn)
  rcases (hf.finished n).mp hi with old | new
  · exact hf.seen n (hk n old)
  · exact new.1

lemma foldl (step : List Nat × List Nat -> Nat -> List Nat × List Nat) {ms : List Nat}
  (each : ∀ s, ∀ m ∈ ms, (g.unseen s.1).length < depth -> Searched g s (step s m) ∧ m ∈ (step s m).1)
  (he : (g.unseen s.1).length < depth) :
  Searched g s (ms.foldl step s) ∧ ∀ m ∈ ms, m ∈ (ms.foldl step s).1 := by
 induction ms generalizing s with
 | nil => exact ⟨.refl s, by simp⟩
 | cons m ms ih =>
  obtain ⟨hf, here⟩ := each s m mem_cons_self he
  obtain ⟨rest, ho⟩ := ih (fun s k hi => each s k (mem_cons_of_mem m hi))
   (lt_of_le_of_lt (length_unseen_le hf.seen) he)
  exact ⟨hf.trans rest, forall_mem_cons.mpr ⟨rest.seen m here, ho⟩⟩

lemma around {seen done n t} (hf : n ∉ seen) (hb : Searched g (n :: seen, done) t) (next : ∀ m ∈ g.succs n, m ∈ t.1) :
  Searched g (seen, done) (t.1, n :: t.2) ∧ n ∈ t.1 := by
 have here : n ∈ t.1 := hb.seen n mem_cons_self
 refine ⟨⟨fun m he => hb.seen m (mem_cons_of_mem n he), fun m => ?_, fun m hi he => ?_,
  fun hk hn => nodup_cons.mpr ⟨fun ha => ?_, ?_⟩⟩, here⟩
 · rw [mem_cons, hb.finished]
   by_cases same : m = n
   · simp [same, here, hf]
   · simp [same]
 · by_cases same : m = n
   · exact same ▸ next
   · exact hb.closed m hi fun hk => (mem_cons.mp hk).elim same he
 · rcases (hb.finished n).mp ha with old | ⟨-, new⟩
   · exact hf (hk n old)
   · exact new mem_cons_self
 · exact hb.once (fun m old => mem_cons_of_mem n (hk m old)) hn

end Searched

lemma visit_searched (n : Nat) (he : (g.unseen s.1).length < depth) :
  Searched g s (g.visit depth s n) ∧ n ∈ (g.visit depth s n).1 := by
 induction depth generalizing s n with
 | zero => omega
 | succ depth ih =>
  obtain ⟨seen, done⟩ := s
  rw [visit]
  split
  · next hr => exact ⟨.refl _, by simpa using hr⟩
  · next hf =>
     have hf : n ∉ seen := by simpa using hf
     have fold : Searched g (n :: seen, done) ((g.succs n).foldl (g.visit depth) (n :: seen, done)) ∧
       ∀ m ∈ g.succs n, m ∈ ((g.succs n).foldl (g.visit depth) (n :: seen, done)).1 := by
      by_cases hs : g.succs n = []
      · rw [hs]
        exact ⟨.refl _, nofun⟩
      · exact Searched.foldl (g.visit depth) (fun s m _ => ih m)
         ((length_unseen_cons hs hf).trans_le (Nat.le_of_lt_succ he))
     exact fold.1.around hf fold.2

lemma unseen_lt_depth (g : Net) : (g.unseen []).length < g.depth := by
 have : (g.unseen []).length ≤ g.next.length :=
  (filter_sublist.trans (dedup_sublist _)).length_le.trans_eq (length_map _)
 rw [depth]
 omega

variable {start : Nat}

lemma order_searched (g : Net) (start : Nat) : start ∈ g.rpo start ∧
   (∀ n ∈ g.rpo start, ∀ m ∈ g.succs n, m ∈ g.rpo start) ∧
   (g.rpo start).Nodup := by
 obtain ⟨hs, hf⟩ := visit_searched start (s := ([], [])) g.unseen_lt_depth
 have same : ∀ n, n ∈ g.rpo start ↔ n ∈ (g.visit g.depth ([], []) start).1 := by
  intro n
  rw [rpo, hs.finished]
  simp
 refine ⟨(same start).mpr hf, fun n hi m edge => (same m).mpr ?_, hs.once (by simp) nodup_nil⟩
 exact hs.closed n ((same n).mp hi) not_mem_nil m edge

lemma mem_order_of_leads (way : g.Leads start n) : n ∈ g.rpo start := by
 obtain ⟨hf, hc, -⟩ := g.order_searched start
 induction way with
 | refl => exact hf
 | tail _ edge he => exact hc _ he _ edge

/-! ## Where nodes are entered from -/

/-- Each of the nodes is entered from one before it, the first ones from what came before them all. -/
def Led (g : Net) : List Nat -> List Nat -> Prop
 | _, [] => True
 | before, m :: ms => (∃ p ∈ before, m ∈ g.succs p) ∧ g.Led (m :: before) ms

namespace Led

lemma mono (hl : g.Led before ms) (more : ∀ p ∈ before, p ∈ before') : g.Led before' ms := by
 induction ms generalizing before before' with
 | nil => trivial
 | cons m ms ih =>
  obtain ⟨⟨p, hp, edge⟩, rest⟩ := hl
  exact ⟨⟨p, more p hp, edge⟩, ih rest (cons_subset_cons m more)⟩

lemma append (hf : g.Led before ms) (hs : g.Led before ks) : g.Led before (ms ++ ks) := by
 induction ms generalizing before with
 | nil => exact hs
 | cons m ms ih => exact ⟨hf.1, ih hf.2 (hs.mono fun _ => mem_cons_of_mem m)⟩

lemma earlier (hl : g.Led before (ms ++ n :: ks)) : ∃ p, (p ∈ before ∨ p ∈ ms) ∧ n ∈ g.succs p := by
 induction ms generalizing before with
 | nil =>
  obtain ⟨⟨p, hp, edge⟩, -⟩ := hl
  exact ⟨p, .inl hp, edge⟩
 | cons m ms ih =>
  obtain ⟨p, hp, edge⟩ := ih hl.2
  exact ⟨p, by simpa [or_assoc, or_left_comm] using hp, edge⟩

lemma leads (hl : g.Led before ms) (hb : ∀ p ∈ before, g.Leads start p) : ∀ m ∈ ms, g.Leads start m := by
 induction ms generalizing before with
 | nil => exact nofun
 | cons m ms ih =>
  obtain ⟨⟨p, hp, edge⟩, rest⟩ := hl
  have hm : g.Leads start m := (hb p hp).tail edge
  exact forall_mem_cons.mpr ⟨hm, ih rest (forall_mem_cons.mpr ⟨hm, hb⟩)⟩

end Led

/-- What a search adds begins with the node at which it starts and is led from there. -/
lemma visit_led (g : Net) (depth : Nat) (s : List Nat × List Nat) (n : Nat) :
  ∃ new, (g.visit depth s n).2 = new ++ s.2 ∧ (new = [] ∨ ∃ rest, new = n :: rest ∧ g.Led [n] rest) := by
 induction depth generalizing s n with
 | zero => exact ⟨[], rfl, .inl rfl⟩
 | succ depth ih =>
  rw [visit]
  split
  · exact ⟨[], rfl, .inl rfl⟩
  · have each : ∀ ms ⊆ g.succs n, ∀ s, ∃ new, (ms.foldl (g.visit depth) s).2 = new ++ s.2 ∧ g.Led [n] new := by
     intro ms
     induction ms with
     | nil => exact fun _ s => ⟨[], rfl, trivial⟩
     | cons m ms next =>
      intro hs s
      obtain ⟨here, hh, first⟩ := ih s m
      obtain ⟨rest, hr, led⟩ := next (subset_of_cons_subset hs) (g.visit depth s m)
      refine ⟨rest ++ here, by rw [foldl_cons, hr, hh, append_assoc], led.append ?_⟩
      rcases first with rfl | ⟨below, rfl, hb⟩
      · trivial
      · exact ⟨⟨n, mem_cons_self, hs mem_cons_self⟩, hb.mono (by simp)⟩
    obtain ⟨new, hn, led⟩ := each _ (fun _ edge => edge) (n :: s.1, s.2)
    exact ⟨n :: new, congrArg (n :: ·) hn, .inr ⟨new, rfl, led⟩⟩

lemma order_led (g : Net) (start : Nat) : ∃ rest, g.rpo start = start :: rest ∧ g.Led [start] rest := by
 obtain ⟨new, hn, rfl | ⟨rest, rfl, led⟩⟩ := visit_led g g.depth ([], []) start
 · simpa [rpo, hn] using (g.order_searched start).1
 · exact ⟨rest, by simpa [rpo] using hn, led⟩

lemma mem_order_iff : n ∈ g.rpo start ↔ g.Leads start n := by
 refine ⟨fun hm => ?_, mem_order_of_leads⟩
 obtain ⟨rest, ho, led⟩ := g.order_led start
 rcases mem_cons.mp (ho ▸ hm) with rfl | hm
 · exact .refl
 · exact led.leads (by simp [Leads, Relation.ReflTransGen.refl]) n hm

/-! ## Nets without circles -/

/-- Edges lead to nodes that come later. -/
def Falls (g : Net) (l : List Nat) : Prop := ∀ a rest, a :: rest <:+ l -> ∀ b ∈ g.succs a, b ∈ rest

lemma Falls.cons (hf : g.Falls l) (hn : ∀ b ∈ g.succs n, b ∈ l) : g.Falls (n :: l) := by
 intro a rest hs b edge
 rcases suffix_cons_iff.mp hs with same | hs
 · cases same
   exact hn b edge
 · exact hf a rest hs b edge

lemma visit_falls (free : ∀ a b, b ∈ g.succs a -> ¬ g.Leads b a)
  (he : (g.unseen s.1).length < depth) (hw : ∀ x ∈ s.1, x ∉ s.2 -> g.Leads x n) (hf : g.Falls s.2) :
  g.Falls (g.visit depth s n).2 := by
 induction depth generalizing s n with
 | zero => exact hf
 | succ depth ih =>
  obtain ⟨seen, done⟩ := s
  rw [visit]
  split
  · exact hf
  · next hs =>
     by_cases none : g.succs n = []
     · rw [none]
       exact hf.cons (by simp [none])
     have he := (length_unseen_cons none (by simpa using hs)).trans_le (Nat.le_of_lt_succ he)
     -- What is seen and not done leads to `n`, so none of it can be entered from there.
     have open_ {u : List Nat × List Nat} (hu : Searched g (n :: seen, done) u) {x : Nat} (hx : x ∈ u.1) (hd : x ∉ u.2) :
       g.Leads x n := by
      have hx := not_or.mp (mt (hu.finished x).mpr hd)
      rcases mem_cons.mp (by_contra fun ho => hx.2 ⟨‹_›, ho⟩) with rfl | hi
      · exact .refl
      · exact hw x hi hx.1
     have fold : ∀ ms ⊆ g.succs n, ∀ u, Searched g (n :: seen, done) u -> g.Falls u.2 ->
       g.Falls (ms.foldl (g.visit depth) u).2 := by
      intro ms
      induction ms with
      | nil => exact fun _ _ _ hf => hf
      | cons m ms next =>
       intro hm u hu hf
       have hl := (length_unseen_le hu.seen).trans_lt he
       refine next (subset_of_cons_subset hm) _ (hu.trans (visit_searched m hl).1) (ih hl ?_ hf)
       exact fun x hx hd => (open_ hu hx hd).tail (hm mem_cons_self)
     obtain ⟨hu, next⟩ := Searched.foldl (g.visit depth) (fun s m (_ : m ∈ g.succs n) => visit_searched m)
      (s := (n :: seen, done)) he
     refine (fold _ (fun _ hm => hm) _ (.refl _) hf).cons fun b edge => by_contra fun hd => ?_
     exact free n b edge (open_ hu (next b edge) hd)

lemma order_falls (free : ∀ a b, b ∈ g.succs a -> ¬ g.Leads b a) : g.Falls (g.rpo start) := by
 refine visit_falls free g.unseen_lt_depth nofun fun a rest hs => ?_
 simp at hs

end DexLens.Source.Net
