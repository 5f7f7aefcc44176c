import DexLens.CallGraph.Build
import DexLens.Proofs.Effect

/-! # Call graphs only grow

All that is ever done to the table of nodes is that a node is made, unless its key is known, and told something. So
nodes keep their numbers and stay what they are.
-/

namespace DexLens.CallGraph

open Effect List

namespace Digraph

variable {a b n : Nat} {t : List (Nat × List Nat)} {p : Nat × List Nat} {d g : Digraph}

lemma mem_edges : (a, b) ∈ g.edges ↔ ∃ vs, (a, vs) ∈ g.succ ∧ b ∈ vs := by simp [edges]

lemma mem_ensure (h : p ∈ t) : p ∈ ensure t n := by
 unfold ensure
 split
 · exact h
 · exact mem_append_left _ h

lemma exists_mem_ensure (t : List (Nat × List Nat)) (n : Nat) : ∃ vs, (n, vs) ∈ ensure t n := by
 unfold ensure
 split
 · rename_i hp
   obtain ⟨p, hm, same⟩ := any_eq_true.mp hp
   exact ⟨p.2, by simpa [<- beq_iff_eq.mp same] using hm⟩
 · exact ⟨[], by simp⟩

lemma of_mem_ensure (h : p ∈ ensure t n) : p ∈ t ∨ p = (n, []) := by
 unfold ensure at h
 split at h
 · exact .inl h
 · simpa using h

lemma mem_link : (∃ vs, (a, vs) ∈ link t n m ∧ b ∈ vs) ↔
   (∃ vs, (a, vs) ∈ t ∧ b ∈ vs) ∨ (a = n ∧ b = m ∧ ∃ vs, (n, vs) ∈ t) := by
 constructor
 · rintro ⟨vs, hm, hi⟩
   obtain ⟨⟨u, ws⟩, old, same⟩ := mem_map.mp hm
   by_cases he : (u == n && !ws.contains m) = true
   · rw [if_pos he] at same
     obtain ⟨rfl, rfl⟩ := Prod.mk.inj same
     simp only [Bool.and_eq_true, beq_iff_eq] at he
     rcases mem_append.mp hi with hb | new
     · exact .inl ⟨ws, old, hb⟩
     · exact .inr ⟨he.1, mem_singleton.mp new, ws, he.1 ▸ old⟩
   · rw [if_neg he] at same
     obtain ⟨rfl, rfl⟩ := Prod.mk.inj same
     exact .inl ⟨ws, old, hi⟩
 · rintro (⟨vs, hm, hi⟩ | ⟨rfl, rfl, vs, hm⟩)
   · by_cases he : (a == n && !vs.contains m) = true
     · refine ⟨vs ++ [m], mem_map.mpr ⟨(a, vs), hm, ?_⟩, mem_append_left _ hi⟩
       exact if_pos he
     · exact ⟨vs, mem_map.mpr ⟨(a, vs), hm, if_neg he⟩, hi⟩
   · by_cases ht : b ∈ vs
     · exact ⟨vs, mem_map.mpr ⟨(a, vs), hm, by simp [ht]⟩, ht⟩
     · exact ⟨vs ++ [b], mem_map.mpr ⟨(a, vs), hm, by simp [ht]⟩, by simp⟩

lemma mem_edges_addEdge : (a, b) ∈ (g.addEdge u v).edges ↔ (a, b) ∈ g.edges ∨ (a = u ∧ b = v) := by
 rw [mem_edges, mem_edges]
 change (∃ vs, (a, vs) ∈ link (ensure (ensure g.succ u) v) u v ∧ b ∈ vs) ↔ _
 rw [mem_link]
 constructor
 · rintro (⟨vs, hm, hi⟩ | ⟨rfl, rfl, -⟩)
   · rcases of_mem_ensure hm with hm | same
     · rcases of_mem_ensure hm with hm | same
       · exact .inl ⟨vs, hm, hi⟩
       · simp [(Prod.mk.inj same).2] at hi
     · simp [(Prod.mk.inj same).2] at hi
   · exact .inr ⟨rfl, rfl⟩
 · rintro (⟨vs, hm, hi⟩ | ⟨rfl, rfl⟩)
   · exact .inl ⟨vs, mem_ensure (mem_ensure hm), hi⟩
   · obtain ⟨vs, hm⟩ := exists_mem_ensure g.succ a
     exact .inr ⟨rfl, rfl, vs, mem_ensure hm⟩

lemma mem_keys_ensure : a ∈ (ensure t n).map (·.1) ↔ a ∈ t.map (·.1) ∨ a = n := by
 unfold ensure
 split
 · rename_i hp
   refine ⟨.inl, fun h => h.elim id fun same => ?_⟩
   obtain ⟨p, hm, ht⟩ := any_eq_true.mp hp
   exact mem_map.mpr ⟨p, hm, (beq_iff_eq.mp ht).trans same.symm⟩
 · simp

lemma keys_link (t : List (Nat × List Nat)) (n m : Nat) : (link t n m).map (·.1) = t.map (·.1) := by
 rw [link, map_map]
 refine map_congr_left fun p _ => ?_
 dsimp only [Function.comp]
 split <;> rfl

lemma mem_nodes_addNode : a ∈ (d.addNode n).nodes ↔ a ∈ d.nodes ∨ a = n := mem_keys_ensure

lemma edges_addNode_eq (d : Digraph) (n : Nat) : (d.addNode n).edges = d.edges := by
 unfold edges addNode ensure
 split
 · rfl
 · simp

lemma mem_nodes_addEdge : a ∈ (d.addEdge u v).nodes ↔ a ∈ d.nodes ∨ a = u ∨ a = v := by
 change a ∈ (link (ensure (ensure d.succ u) v) u v).map (·.1) ↔ _
 rw [keys_link, mem_keys_ensure, mem_keys_ensure, or_assoc]
 rfl

end Digraph

namespace Node

variable (kind : NodeKind) (m : Sig) (key filename perm level : String) (x : Node)

/-- A node that knows only what it stands for. -/
def blank (label : String) (real : Bool) : Node := ⟨kind, key, label, real, none, none, none, none, none, none⟩

/-- The node of a method. -/
def ofMethod : Node := blank kind m.key m.key true

def ofClass (cls : String) : Node := blank .cls cls cls false

def ofPermission : Node := blank .permission key perm false

/-- A node that is told which method it belongs to. -/
def owned : Node :=
 { x with cls := some m.cls, method := some m.name, desc := some m.desc }

def inClass (cls : String) (x : Node) : Node := { x with cls := some cls }

def asking : Node := { x.owned m with permission := some perm }

/-- A node that is told which permission a method needs, and the level of that permission. -/
def granting : Node :=
 { x.asking m perm with level := some level }

/-- A node that is told which file was loaded. -/
def loading : Node := { x with loaded := some filename }

/-- The same node, whatever it was told. -/
structure Same (x y : Node) : Prop where
 kind : y.kind = x.kind
 key : y.key = x.key
 label : y.label = x.label
 real : y.real = x.real

/-- The same node, which still names a permission and a level if it did. -/
structure Extends (x y : Node) : Prop extends x.Same y where
 permission : x.permission.isSome -> y.permission.isSome
 level : x.level.isSome -> y.level.isSome

lemma Extends.refl : x.Extends x := ⟨⟨rfl, rfl, rfl, rfl⟩, id, id⟩

lemma Extends.trans {x y z : Node} (h : x.Extends y) (h' : y.Extends z) : x.Extends z :=
 ⟨⟨h'.kind.trans h.kind, h'.key.trans h.key, h'.label.trans h.label, h'.real.trans h.real⟩,
  h'.permission ∘ h.permission, h'.level ∘ h.level⟩

def Tells (tell : Node -> Node) : Prop := ∀ x : Node, x.Extends (tell x)

lemma tells_id : Tells id := .refl
lemma tells_owned : Tells (owned m) := fun _ => ⟨⟨rfl, rfl, rfl, rfl⟩, id, id⟩
lemma tells_inClass (cls : String) : Tells (inClass cls) := fun _ => ⟨⟨rfl, rfl, rfl, rfl⟩, id, id⟩
lemma tells_asking : Tells (asking m perm) := fun _ => ⟨⟨rfl, rfl, rfl, rfl⟩, fun _ => rfl, id⟩
lemma tells_granting : Tells (granting m perm level) := fun _ => ⟨⟨rfl, rfl, rfl, rfl⟩, fun _ => rfl, fun _ => rfl⟩
lemma tells_loading : Tells (loading filename) := fun _ => ⟨⟨rfl, rfl, rfl, rfl⟩, id, id⟩

end Node

open Node

namespace Graph

variable {g : Graph} {key : String} {x : Node}

/-- Is there a node of this key? -/
def HasKey (g : Graph) (key : String) : Prop := ∃ (i : Nat) (x : Node), g.nodes[i]? = some x ∧ x.key = key

/-- An edge from a node of one sort to a node of another. -/
def Joined (g : Graph) (p q : Node -> Prop) : Prop :=
 ∃ (i j : Nat) (x y : Node), g.nodes[i]? = some x ∧ g.nodes[j]? = some y ∧ p x ∧ q y ∧ (i, j) ∈ g.links.edges

section

variable (g : Graph) (u v n : Nat) (x : Node) (tell : Node -> Node)

/-- The number of the node of a key, or the number it would get. -/
def slot (key : String) : Nat := g.nodes.findIdx (·.key == key)

def ensure : Graph := if g.slot x.key < g.nodes.length then g else { g with nodes := g.nodes ++ [x] }

/-- Change a node. -/
def alter : Graph := { g with nodes := g.nodes.modify n tell }

def place : Graph := { g with links := g.links.addNode n }

/-- Add an edge. -/
def join : Graph := { g with links := g.links.addEdge u v }

def enter : Graph := { g with entries := g.entries ++ [n] }

def touch : Graph := (g.ensure x).alter (g.slot x.key) tell

/-- A node that is told something and hangs below another one. -/
def hangBelow : Graph := (g.touch x tell).join u (g.slot x.key)

def standAbove : Graph := (g.touch x tell).join (g.slot x.key) u

end

lemma findIdx_eq_none_iff : g.nodes.findIdx? (·.key == key) = none ↔ ¬ g.HasKey key := by
 rw [findIdx?_eq_none_iff]
 constructor
 · rintro ha ⟨i, x, at_i, same⟩
   simpa [same] using ha x (mem_of_getElem? at_i)
 · intro ha x hm
   obtain ⟨i, at_i⟩ := getElem?_of_mem hm
   exact beq_eq_false_iff_ne.mpr fun same => ha ⟨i, x, at_i, same⟩

lemma of_findIdx (h : g.nodes.findIdx? (·.key == key) = some i) : ∃ x, g.nodes[i]? = some x ∧ x.key = key := by
 obtain ⟨hi, same, -⟩ := findIdx?_eq_some_iff_getElem.mp h
 exact ⟨g.nodes[i], getElem?_eq_getElem hi, beq_iff_eq.mp same⟩

lemma slot_lt_iff : g.slot key < g.nodes.length ↔ g.HasKey key := by
 simp only [slot, findIdx_lt_length, beq_iff_eq]
 constructor
 · rintro ⟨x, hm, same⟩
   obtain ⟨i, at_i⟩ := getElem?_of_mem hm
   exact ⟨i, x, at_i, same⟩
 · rintro ⟨i, x, at_i, same⟩
   exact ⟨x, mem_of_getElem? at_i, same⟩

lemma slot_of_not_hasKey (ha : ¬ g.HasKey key) : g.slot key = g.nodes.length := by
 have le : g.slot key ≤ g.nodes.length := findIdx_le_length
 exact le.antisymm (not_lt.mp (mt slot_lt_iff.mp ha))

lemma at_slot (h : g.HasKey key) : ∃ x, g.nodes[g.slot key]? = some x ∧ x.key = key := by
 have hi := slot_lt_iff.mpr h
 exact ⟨_, getElem?_eq_getElem hi, beq_iff_eq.mp (findIdx_getElem (w := hi))⟩

lemma ensure_of_hasKey (h : g.HasKey x.key) : g.ensure x = g := if_pos (slot_lt_iff.mpr h)

lemma ensure_of_not_hasKey (h : ¬ g.HasKey x.key) : g.ensure x = { g with nodes := g.nodes ++ [x] } :=
 if_neg (mt slot_lt_iff.mp h)

section

variable (g : Graph) (n : Nat) (x : Node) (tell : Node -> Node)

@[simp] lemma links_ensure : (g.ensure x).links = g.links := by
 unfold ensure
 split <;> rfl

@[simp] lemma entries_ensure : (g.ensure x).entries = g.entries := by
 unfold ensure
 split <;> rfl

lemma length_le_ensure : g.nodes.length ≤ (g.ensure x).nodes.length := by
 unfold ensure
 split
 · exact le_rfl
 · simp

lemma at_slot_ensure : ∃ y, (g.ensure x).nodes[g.slot x.key]? = some y ∧ y.key = x.key := by
 by_cases ht : g.HasKey x.key
 · rw [ensure_of_hasKey ht]
   exact at_slot ht
 · rw [ensure_of_not_hasKey ht, slot_of_not_hasKey ht]
   exact ⟨x, by simp, rfl⟩

lemma slot_lt_ensure : g.slot x.key < (g.ensure x).nodes.length := by
 obtain ⟨y, ha, -⟩ := g.at_slot_ensure x
 exact (List.getElem?_eq_some_iff.mp ha).1

@[simp] lemma length_alter : (g.alter n tell).nodes.length = g.nodes.length := length_modify _ _ _

lemma alter_alter (f f' : Node -> Node) : (g.alter n f).alter n f' = g.alter n (f' ∘ f) := by simp [alter, modify_modify_eq]

lemma touch_id : g.touch x id = g.ensure x := by simp only [touch, alter, modify_id]

lemma length_le_touch : g.nodes.length ≤ (g.touch x tell).nodes.length := by
 rw [touch, length_alter]
 exact g.length_le_ensure x

lemma slot_lt_touch : g.slot x.key < (g.touch x tell).nodes.length := by
 rw [touch, length_alter]
 exact g.slot_lt_ensure x

lemma hasKey_touch {tell} (ht : Tells tell) : (g.touch x tell).HasKey x.key := by
 obtain ⟨y, ha, hn⟩ := g.at_slot_ensure x
 exact ⟨g.slot x.key, tell y, by simp [touch, alter, ha], (ht y).key.trans hn⟩

end

lemma getElem?_ensure_of_ne (hh : i ≠ g.slot x.key) : (g.ensure x).nodes[i]? = g.nodes[i]? := by
 by_cases ht : g.HasKey x.key
 · rw [ensure_of_hasKey ht]
 · rw [ensure_of_not_hasKey ht]
   rw [slot_of_not_hasKey ht] at hh
   rcases lt_or_gt_of_ne hh with hi | ho
   · exact getElem?_append_left hi
   · rw [getElem?_eq_none ho.le, getElem?_eq_none]
     rw [length_append, length_singleton]
     exact ho

lemma getElem?_touch_of_ne {x tell i} (ho : i ≠ g.slot x.key) : (g.touch x tell).nodes[i]? = g.nodes[i]? := by
 have told : (g.touch x tell).nodes[i]? = (g.ensure x).nodes[i]? := getElem?_modify_ne _ _ ho.symm
 rw [told, getElem?_ensure_of_ne ho]

section

variable (g : Graph) (x : Node) (tell : Node -> Node)

lemma getElem?_touch : ∃ y, (g.touch x tell).nodes[g.slot x.key]? = some (tell y) ∧ y.key = x.key ∧
   (g.nodes[g.slot x.key]? = some y ∨ ¬ g.HasKey x.key ∧ y = x) := by
 have told : (g.touch x tell).nodes[g.slot x.key]? = tell <$> (g.ensure x).nodes[g.slot x.key]? :=
  getElem?_modify_eq _ _ _
 by_cases ht : g.HasKey x.key
 · obtain ⟨y, at_slot, hn⟩ := at_slot ht
   rw [told, ensure_of_hasKey ht, at_slot]
   exact ⟨y, rfl, hn, .inl rfl⟩
 · rw [told, ensure_of_not_hasKey ht, slot_of_not_hasKey ht, getElem?_concat_length]
   exact ⟨x, rfl, rfl, .inr ⟨ht, rfl⟩⟩

lemma links_touch : (g.touch x tell).links = g.links := g.links_ensure x

/-! ## Nothing is taken away -/

/-- Nodes keep their numbers and stay what they are, and nothing leaves the graph proper. -/
structure Retains (g h : Graph) : Prop where
 nodes : ∀ (i : Nat) (x : Node), g.nodes[i]? = some x -> ∃ y, h.nodes[i]? = some y ∧ x.Same y
 placed : ∀ n ∈ g.links.nodes, n ∈ h.links.nodes
 edges : ∀ e ∈ g.links.edges, e ∈ h.links.edges
 entries : g.entries <+: h.entries

/-- A graph with all that was there before, where permissions stay named. -/
structure Grows (g h : Graph) : Prop where
 nodes : ∀ (i : Nat) (x : Node), g.nodes[i]? = some x -> ∃ y, h.nodes[i]? = some y ∧ x.Extends y
 placed : ∀ n ∈ g.links.nodes, n ∈ h.links.nodes
 edges : ∀ e ∈ g.links.edges, e ∈ h.links.edges
 entries : g.entries <+: h.entries

instance : Std.Refl Grows where
 refl _ := ⟨fun _ x at_i => ⟨x, at_i, .refl x⟩, fun _ => id, fun _ => id, prefix_rfl⟩

instance : IsTrans Graph Grows where
 trans _ _ _ first second := by
  refine ⟨fun i x at_i => ?_, fun n member => second.placed n (first.placed n member),
   fun e member => second.edges e (first.edges e member), first.entries.trans second.entries⟩
  obtain ⟨y, at_i, extended⟩ := first.nodes i x at_i
  obtain ⟨z, at_i, further⟩ := second.nodes i y at_i
  exact ⟨z, at_i, extended.trans further⟩

lemma key_extends (y : Node) (h : x.Extends y) (same : x.key = key) : y.key = key := h.key.trans same

end

namespace Grows

variable {h k : Graph}

lemma trans (hf : g.Grows h) (hs : h.Grows k) : g.Grows k := IsTrans.trans _ _ _ hf hs

lemma retains (hg : g.Grows h) : g.Retains h :=
 ⟨fun i x at_i => (hg.nodes i x at_i).imp fun _ => .imp_right Extends.toSame, hg.placed, hg.edges, hg.entries⟩

lemma hasKey (hg : g.Grows h) : g.HasKey key -> h.HasKey key := by
 rintro ⟨i, x, at_i, rfl⟩
 obtain ⟨y, at_i, he⟩ := hg.nodes i x at_i
 exact ⟨i, y, at_i, he.key⟩

lemma joined (hg : g.Grows h) (hp : ∀ x y, x.Extends y -> p x -> p y)
  (hq : ∀ x y, x.Extends y -> q x -> q y) : g.Joined p q -> h.Joined p q := by
 rintro ⟨i, j, x, y, at_i, at_j, px, qy, edge⟩
 obtain ⟨x', at_i, he⟩ := hg.nodes i x at_i
 obtain ⟨y', at_j, hf⟩ := hg.nodes j y at_j
 exact ⟨i, j, x', y', at_i, at_j, hp x x' he px, hq y y' hf qy, hg.edges _ edge⟩

lemma joined_keys (hg : g.Grows h) : g.Joined (·.key = a) (·.key = b) -> h.Joined (·.key = a) (·.key = b) :=
 hg.joined key_extends key_extends

lemma length_le (hg : g.Grows h) : g.nodes.length ≤ h.nodes.length := by
 by_contra hs
 obtain ⟨y, ha, -⟩ := hg.nodes h.nodes.length _ (getElem?_eq_getElem (not_le.mp hs))
 exact absurd (List.getElem?_eq_some_iff.mp ha).1 (lt_irrefl _)

section

variable (g : Graph) (x : Node) (n : Nat)

lemma ensure : g.Grows (g.ensure x) := by
 refine ⟨fun i y at_i => ⟨y, ?_, .refl y⟩, by simp, by simp, by simp⟩
 unfold Graph.ensure
 split
 · exact at_i
 · rw [getElem?_append_left (List.getElem?_eq_some_iff.mp at_i).1]
   exact at_i

lemma alter {tell} (ht : Tells tell) : g.Grows (g.alter n tell) := by
 refine ⟨fun i x at_i => ?_, fun _ => id, fun _ => id, prefix_rfl⟩
 by_cases same : n = i
 · exact ⟨tell x, by simp [Graph.alter, same, at_i], ht x⟩
 · exact ⟨x, by simp [Graph.alter, same, at_i], .refl x⟩

lemma touch {tell} (ht : Tells tell) : g.Grows (g.touch x tell) := (ensure g x).trans (alter _ _ ht)

lemma place : g.Grows (g.place n) :=
 ⟨fun _ x at_i => ⟨x, at_i, .refl x⟩, fun _ hm => Digraph.mem_nodes_addNode.mpr (.inl hm),
  fun _ hm => (g.links.edges_addNode_eq n).symm ▸ hm, prefix_rfl⟩

lemma join (u v : Nat) : g.Grows (g.join u v) :=
 ⟨fun _ x at_i => ⟨x, at_i, .refl x⟩, fun _ hm => Digraph.mem_nodes_addEdge.mpr (.inl hm),
  fun _ hm => Digraph.mem_edges_addEdge.mpr (.inl hm), prefix_rfl⟩

lemma enter : g.Grows (g.enter n) := ⟨fun _ x at_i => ⟨x, at_i, .refl x⟩, fun _ => id, fun _ => id, prefix_append _ _⟩

end

end Grows

lemma hasKey_touch_iff {x tell} (ht : Tells tell) : (g.touch x tell).HasKey key ↔ g.HasKey key ∨ key = x.key := by
 constructor
 · rintro ⟨i, y, at_i, rfl⟩
   by_cases ho : i = g.slot x.key
   · obtain ⟨z, told, hn, -⟩ := g.getElem?_touch x tell
     obtain rfl : tell z = y := Option.some.inj (told.symm.trans (ho ▸ at_i))
     exact .inr ((ht z).key.trans hn)
   · rw [getElem?_touch_of_ne ho] at at_i
     exact .inl ⟨i, y, at_i, rfl⟩
 · rintro (hh | rfl)
   · exact (Grows.touch g x ht).hasKey hh
   · exact g.hasKey_touch x ht

end Graph

end DexLens.CallGraph
