import DexLens.Proofs.CallGraph.Tables

/-! # Marks of calls of interest

Marks of calls of interest are made when a file is added, and only for calls of that file. Two calls of a method to
the same target share their mark.
-/

namespace DexLens.CallGraph

open Effect List

namespace Graph

def Draws (allows : NodeKind -> String -> Prop) (g h : Graph) : Prop :=
 ∀ y ∈ h.nodes, (∃ x ∈ g.nodes, x.kind = y.kind ∧ x.key = y.key) ∨ allows y.kind y.key

section

variable {allows : NodeKind -> String -> Prop} {x : Node} {lax : Prop}

lemma draws_of_nodes {g h : Graph} (same : h.nodes = g.nodes) : g.Draws allows h := by
 intro y hm
 rw [same] at hm
 exact .inl ⟨y, hm, rfl, rfl⟩

instance : Std.Refl (Draws allows) := ⟨fun _ => draws_of_nodes rfl⟩

instance : IsTrans Graph (Draws allows) where
 trans g h k first second := by
  intro z member
  obtain ⟨y, member, kind, key⟩ | allowed := second z member
  · rw [<- kind, <- key]
    exact first y member
  · exact .inr allowed

lemma draws_ensure {g : Graph} (ha : allows x.kind x.key) : g.Draws allows (g.ensure x) := by
 intro y hm
 unfold ensure at hm
 split at hm
 · exact .inl ⟨y, hm, rfl, rfl⟩
 · rcases mem_append.mp hm with old | new
   · exact .inl ⟨y, old, rfl, rfl⟩
   · exact .inr (mem_singleton.mp new ▸ ha)

lemma draws_touch {g : Graph} {tell : Node -> Node} (ha : allows x.kind x.key) (ht : Node.Tells tell) :
  g.Draws allows (g.touch x tell) := by
 refine IsTrans.trans _ _ _ (draws_ensure ha) fun y hm => ?_
 obtain ⟨i, at_i⟩ := getElem?_of_mem hm
 rw [touch, alter, getElem?_modify] at at_i
 obtain ⟨z, hz, rfl⟩ := Option.map_eq_some_iff.mp at_i
 refine .inl ⟨z, mem_of_getElem? hz, ?_⟩
 split
 · exact ⟨(ht z).kind.symm, (ht z).key.symm⟩
 · exact ⟨rfl, rfl⟩

lemma Move.draws {g h : Graph} (move : g.Move lax allows h) : g.Draws allows h := by
 cases move with
 | settle ha ht | below _ ha ht | above _ ha ht => exact draws_touch ha ht
 | pair ha hb => exact IsTrans.trans _ _ _ (draws_ensure ha) (draws_ensure hb)
 | join | enter => exact draws_of_nodes rfl
 | slip _ _ ha => exact draws_touch ha (Node.tells_asking _ _)

lemma Moves.draws {g h : Graph} (hm : g.Moves lax allows h) : g.Draws allows h :=
 hm.keep (fun move hd => IsTrans.trans _ _ _ hd move.draws) (refl g)

end

/-- The number of nodes of a kind. -/
def kindCount (g : Graph) (kind : NodeKind) : Nat := (g.nodes.filter (·.kind == kind)).length

def Shows (g : Graph) (kind : NodeKind) (key : String) : Prop := ∃ x ∈ g.nodes, x.kind = kind ∧ x.key = key

/-- There are as many nodes as keys exactly when the keys are distinct and each has its node. -/
lemma Coherent.kindCount_le_and_eq_iff {g : Graph} (hc : g.Coherent) {keys : List String}
  (hb : ∀ x ∈ g.nodes, x.kind = kind -> x.key ∈ keys) : g.kindCount kind ≤ keys.length ∧
   (keys.length = g.kindCount kind ↔ keys.Nodup ∧ ∀ key ∈ keys, g.Shows kind key) := by
 let drawn := (g.nodes.filter (·.kind == kind)).map (·.key)
 have ht : drawn.length = g.kindCount kind := length_map _
 have hd key : key ∈ drawn ↔ g.Shows kind key := by simp [drawn, Shows, and_assoc]
 have hs : drawn.Nodup := hc.uniq.sublist (filter_sublist.map _)
 have hw : drawn ⊆ keys := by
  intro key hm
  obtain ⟨x, hr, same, rfl⟩ := (hd key).mp hm
  exact hb x hr same
 have hi : drawn.Subperm keys := hs.subperm hw
 rw [<- ht]
 refine ⟨hi.length_le, fun same => ?_, fun ⟨hn, hh⟩ => ?_⟩
 · have perm : drawn.Perm keys := hi.perm_of_length_le same.le
   exact ⟨perm.nodup_iff.mp hs, fun key hm => (hd key).mp (perm.mem_iff.mpr hm)⟩
 · have perm : drawn.Perm keys := (perm_ext_iff_of_nodup hs hn).mpr fun key =>
    ⟨(hw ·), fun hm => (hd key).mpr (hh key hm)⟩
   exact perm.length_eq.symm

end Graph

end DexLens.CallGraph
