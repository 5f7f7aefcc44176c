import DexLens.Proofs.CallGraph.Tables
import DexLens.Proofs.Lookup

/-! # Call graphs without numbers

Which number a node has depends on when it was made. An atlas shows a call graph by keys alone. Charting a
reflective call is, on an atlas, to lay a few strands: a node that is told something, and a link. Strands that agree
on the nodes they share can be laid in any order.
-/

namespace DexLens.CallGraph

open Effect List Graph

/-- A call graph by keys. -/
@[ext]
structure Atlas where
 node : String -> Option Node
 placed : Set String
 linked : Set (String × String)
 entries : List (Option String)

namespace Atlas

variable {s : Strand} {ts ss : List Strand} (a : Atlas)

def touch (x : Node) (tell : Node -> Node) : Atlas :=
 { a with node := Function.update a.node x.key (some (tell ((a.node x.key).getD x))) }

def link (src dst : String) : Atlas :=
 { a with placed := a.placed ∪ {src, dst}, linked := insert (src, dst) a.linked }

/-- A node, what it is told, and a link. -/
structure Strand where
 node : Node
 tell : Node -> Node
 (src dst : String)

def lay (s : Strand) : Atlas := (a.touch s.node s.tell).link s.src s.dst

def Strand.Agree (s t : Strand) : Prop := s.node.key = t.node.key -> s.node = t.node ∧ s.tell = t.tell

lemma touch_comm (ha : x.key = y.key -> x = y ∧ f = f') : (a.touch x f).touch y f' = (a.touch y f').touch x f := by
 by_cases same : x.key = y.key
 · obtain ⟨rfl, rfl⟩ := ha same
   rfl
 · simp only [touch, Function.update_of_ne same, Function.update_of_ne (symm same)]
   rw [Function.update_comm (symm same)]

lemma lay_comm (ha : s.Agree t) : (a.lay s).lay t = (a.lay t).lay s := by
 have hn := congrArg node (a.touch_comm ha)
 refine Atlas.ext hn ?_ ?_ rfl
 · exact Set.union_right_comm a.placed _ _
 · exact Set.insert_comm _ _ a.linked

lemma lay_foldl_comm (ha : ∀ t ∈ ts, s.Agree t) : ts.foldl lay (a.lay s) = (ts.foldl lay a).lay s := by
 induction ts generalizing a with
 | nil => rfl
 | cons t ts ih =>
  rw [foldl_cons, a.lay_comm (ha t mem_cons_self)]
  exact ih (a.lay t) fun t' hm => ha t' (mem_cons_of_mem t hm)

lemma foldl_lay_comm (ha : ∀ s ∈ ss, ∀ t ∈ ts, s.Agree t) : ts.foldl lay (ss.foldl lay a) = ss.foldl lay (ts.foldl lay a) := by
 induction ss generalizing a with
 | nil => rfl
 | cons s ss ih =>
  rw [foldl_cons, foldl_cons, <- a.lay_foldl_comm (ha s mem_cons_self)]
  exact ih (a.lay s) fun s' hm => ha s' (mem_cons_of_mem s hm)

lemma node_foldl_lay (ho : ∀ s ∈ ss, key ≠ s.node.key) : (ss.foldl lay a).node key = a.node key := by
 induction ss generalizing a with
 | nil => rfl
 | cons s ss ih =>
  rw [foldl_cons, ih _ fun s' hm => ho s' (mem_cons_of_mem s hm)]
  exact Function.update_of_ne (ho s mem_cons_self) _ _

def chart (mark : String) (ss : List Strand) : Atlas := if (a.node mark).isSome then ss.foldl lay a else a

lemma node_chart (ho : ∀ s ∈ ss, key ≠ s.node.key) : (a.chart mark ss).node key = a.node key := by
 unfold chart
 split
 · exact a.node_foldl_lay ho
 · rfl

lemma chart_comm (ha : ∀ s ∈ ss, ∀ t ∈ ts, s.Agree t) (hn : ∀ t ∈ ts, m ≠ t.node.key) (hu : ∀ s ∈ ss, n ≠ s.node.key) :
  (a.chart m ss).chart n ts = (a.chart n ts).chart m ss := by
 have hf : ((a.chart n ts).node m).isSome = (a.node m).isSome := by rw [a.node_chart hn]
 have hs : ((a.chart m ss).node n).isSome = (a.node n).isSome := by rw [a.node_chart hu]
 unfold chart at hf hs ⊢
 rw [hf, hs]
 by_cases hm : (a.node m).isSome
 · by_cases hr : (a.node n).isSome
   · simp only [hm, hr, if_true]
     exact a.foldl_lay_comm ha
   · simp only [hm, hr, if_true]
     rfl
 · simp only [hm]
   rfl

end Atlas

namespace Graph

variable {a b : String}

variable {g h : Graph} {key : String} {x : Node} {i : Nat}

def keyAt (g : Graph) (i : Nat) : Option String := g.nodes[i]?.map (·.key)

/-- What a call graph shows when numbers are left out. -/
def atlas (g : Graph) : Atlas where
 node key := g.nodes[g.slot key]?
 placed := { key | g.slot key ∈ g.links.nodes }
 linked := { e | (g.slot e.1, g.slot e.2) ∈ g.links.edges }
 entries := g.entries.map g.keyAt

lemma isSome_node_atlas : (g.atlas.node key).isSome ↔ g.HasKey key := by
 rw [<- slot_lt_iff, Option.isSome_iff_ne_none]
 exact getElem?_eq_none_iff.not.trans not_le

lemma node_atlas_of_not_hasKey (ha : ¬ g.HasKey key) : g.atlas.node key = none :=
 Option.not_isSome_iff_eq_none.mp (mt isSome_node_atlas.mp ha)

lemma slot_eq_iff (ht : g.HasKey b) : g.slot a = g.slot b ↔ a = b := by
 refine ⟨fun same => ?_, (· ▸ rfl)⟩
 obtain ⟨x, at_b, rfl⟩ := at_slot ht
 have hh : g.HasKey a := slot_lt_iff.mp (same ▸ slot_lt_iff.mpr ht)
 obtain ⟨y, at_a, rfl⟩ := at_slot hh
 rw [same, at_b] at at_a
 rw [Option.some.inj at_a]

namespace Coherent

variable {tell : Node -> Node}

lemma slot_eq (hc : g.Coherent) (at_i : g.nodes[i]? = some x) : g.slot x.key = i := by
 have hf := Build.play_find_some ⟨i, x, at_i, rfl⟩
 rw [hc.find_iff.mpr ⟨x, at_i, rfl⟩] at hf
 exact (Option.some.inj (Except.ok.inj (Prod.mk.inj hf).1)).symm

lemma hasKey_of_placed (hc : g.Coherent) (hp : key ∈ g.atlas.placed) : g.HasKey key := slot_lt_iff.mp (hc.links.below _ hp)

lemma hasKey_of_linked (hc : g.Coherent) (hl : e ∈ g.atlas.linked) : g.HasKey e.1 ∧ g.HasKey e.2:=
 (hc.links.closed _ hl).imp hc.hasKey_of_placed hc.hasKey_of_placed

lemma slot_touch (hc : g.Coherent) (hl : Node.Tells tell)
  (hh : g.HasKey key ∨ key = x.key) : (g.touch x tell).slot key = g.slot key := by
 have ht := hc.touch x hl
 rcases hh with hh | rfl
 · obtain ⟨y, at_slot, rfl⟩ := at_slot hh
   obtain ⟨z, at_slot, same⟩ := (Grows.touch g x hl).nodes _ y at_slot
   exact (congrArg _ same.key.symm).trans (ht.slot_eq at_slot)
 · obtain ⟨y, at_slot, hn, -⟩ := g.getElem?_touch x tell
   exact (congrArg _ ((hl y).key.trans hn).symm).trans (ht.slot_eq at_slot)

lemma node_atlas_touch (hc : g.Coherent) (x : Node) (hl : Node.Tells tell) :
  (g.touch x tell).atlas.node = (g.atlas.touch x tell).node := by
 funext key
 by_cases own : key = x.key
 · subst own
   obtain ⟨y, told, -, hf⟩ := g.getElem?_touch x tell
   have hk : (g.atlas.node x.key).getD x = y := by
    rcases hf with ha | ⟨hb, rfl⟩
    · exact congrArg (Option.getD · x) ha
    · rw [node_atlas_of_not_hasKey hb, Option.getD_none]
   change (g.touch x tell).nodes[(g.touch x tell).slot x.key]? = _
   rw [hc.slot_touch hl (.inr rfl), told]
   exact hk ▸ (Function.update_self x.key _ g.atlas.node).symm
 · have rest : (g.atlas.touch x tell).node key = g.atlas.node key := Function.update_of_ne own _ _
   rw [rest]
   by_cases ht : g.HasKey key
   · change (g.touch x tell).nodes[(g.touch x tell).slot key]? = g.nodes[g.slot key]?
     rw [hc.slot_touch hl (.inl ht)]
     exact getElem?_touch_of_ne fun same => own ((slot_eq_iff ht).mp same.symm).symm
   · rw [node_atlas_of_not_hasKey ht, node_atlas_of_not_hasKey]
     rw [hasKey_touch_iff hl]
     exact not_or.mpr ⟨ht, own⟩

lemma atlas_touch (hc : g.Coherent) (x : Node) (ht : Node.Tells tell) : (g.touch x tell).atlas = g.atlas.touch x tell := by
 have hh := hc.touch x ht
 have hs : ∀ {key}, (g.touch x tell).HasKey key -> (g.touch x tell).slot key = g.slot key :=
  fun hr => hc.slot_touch ht ((hasKey_touch_iff ht).mp hr)
 have kept : ∀ {key}, g.HasKey key -> (g.touch x tell).HasKey key := (Grows.touch g x ht).hasKey
 refine Atlas.ext (hc.node_atlas_touch x ht) ?_ ?_ ?_
 · ext key
   change (g.touch x tell).slot key ∈ (g.touch x tell).links.nodes ↔ g.slot key ∈ g.links.nodes
   constructor
   · intro hp
     rwa [hs (hh.hasKey_of_placed hp), links_touch] at hp
   · intro hp
     rwa [hs (kept (hc.hasKey_of_placed hp)), links_touch]
 · ext ⟨a, b⟩
   change ((g.touch x tell).slot a, (g.touch x tell).slot b) ∈ (g.touch x tell).links.edges ↔
    (g.slot a, g.slot b) ∈ g.links.edges
   constructor
   · intro hl
     obtain ⟨ha, hb⟩ := hh.hasKey_of_linked (e := (a, b)) hl
     rwa [hs ha, hs hb, links_touch] at hl
   · intro hl
     obtain ⟨ha, hb⟩ := hc.hasKey_of_linked (e := (a, b)) hl
     rwa [hs (kept ha), hs (kept hb), links_touch]
 · have he : (g.touch x tell).entries = g.entries := g.entries_ensure x
   change (g.touch x tell).entries.map _ = _
   rw [he]
   refine map_congr_left fun n hm => ?_
   have at_n := getElem?_eq_getElem (hc.entries n hm)
   obtain ⟨y, hn, same⟩ := (Grows.touch g x ht).nodes n _ at_n
   simp only [keyAt, at_n, hn, Option.map_some, same.key]

end Coherent

lemma atlas_join (ha : g.HasKey a) (hb : g.HasKey b) : (g.join (g.slot a) (g.slot b)).atlas = g.atlas.link a b := by
 refine Atlas.ext rfl ?_ ?_ rfl
 · ext key
   change g.slot key ∈ (g.links.addEdge (g.slot a) (g.slot b)).nodes ↔ key ∈ g.atlas.placed ∪ {a, b}
   rw [Digraph.mem_nodes_addEdge, slot_eq_iff ha, slot_eq_iff hb]
   rfl
 · ext ⟨c, d⟩
   change (g.slot c, g.slot d) ∈ (g.links.addEdge (g.slot a) (g.slot b)).edges ↔ (c, d) ∈ insert (a, b) g.atlas.linked
   rw [Digraph.mem_edges_addEdge, slot_eq_iff ha, slot_eq_iff hb, Set.mem_insert_iff, Prod.mk.injEq, or_comm]
   rfl

namespace Coherent

variable {tell : Node -> Node}

lemma atlas_hangBelow (hc : g.Coherent) (hh : g.HasKey key) (x : Node) (ht : Node.Tells tell) :
  (g.hangBelow (g.slot key) x tell).atlas = g.atlas.lay ⟨x, tell, key, x.key⟩ := by
 have hj := atlas_join ((Grows.touch g x ht).hasKey hh) (g.hasKey_touch x ht)
 rw [hc.slot_touch ht (.inl hh), hc.slot_touch ht (.inr rfl), hc.atlas_touch x ht] at hj
 exact hj

lemma atlas_standAbove (hc : g.Coherent) (hh : g.HasKey key) (x : Node) (ht : Node.Tells tell) :
  (g.standAbove (g.slot key) x tell).atlas = g.atlas.lay ⟨x, tell, x.key, key⟩ := by
 have hj := atlas_join (g.hasKey_touch x ht) ((Grows.touch g x ht).hasKey hh)
 rw [hc.slot_touch ht (.inl hh), hc.slot_touch ht (.inr rfl), hc.atlas_touch x ht] at hj
 exact hj

end Coherent

/-! ## Renaming -/

/-- Nodes, places, edges and entries are the same but for their numbers. -/
structure Renames (ρ : Nat -> Nat) (g h : Graph) : Prop where
 bijective : Set.BijOn ρ (Set.Iio g.nodes.length) (Set.Iio h.nodes.length)
 nodes : ∀ i < g.nodes.length, h.nodes[ρ i]? = g.nodes[i]?
 placed : ∀ n, n ∈ h.links.nodes ↔ n ∈ g.links.nodes.map ρ
 edges : ∀ e, e ∈ h.links.edges ↔ e ∈ g.links.edges.map (Prod.map ρ ρ)
 entries : h.entries = g.entries.map ρ

def renumber (g h : Graph) (i : Nat) : Nat := ((g.keyAt i).map h.slot).getD 0

lemma renumber_slot (ht : g.HasKey key) (h : Graph) : g.renumber h (g.slot key) = h.slot key := by
 obtain ⟨x, at_slot, rfl⟩ := at_slot ht
 simp only [renumber, keyAt, at_slot, Option.map_some, Option.getD_some]

lemma Coherent.exists_slot (hc : g.Coherent) (hi : i < g.nodes.length) : ∃ key, g.HasKey key ∧ g.slot key = i := by
 have at_i := getElem?_eq_getElem hi
 exact ⟨_, ⟨i, _, at_i, rfl⟩, hc.slot_eq at_i⟩

lemma hasKey_congr (same : g.atlas = h.atlas) : g.HasKey key ↔ h.HasKey key := by
 rw [<- isSome_node_atlas, same, isSome_node_atlas]

lemma Coherent.bijOn_renumber (hc : g.Coherent) (hh : h.Coherent) (same : g.atlas = h.atlas) :
  Set.BijOn (g.renumber h) (Set.Iio g.nodes.length) (Set.Iio h.nodes.length) := by
 refine ⟨fun i hi => ?_, fun i hi j hn he => ?_, fun n hi => ?_⟩
 · obtain ⟨key, ht, rfl⟩ := hc.exists_slot hi
   rw [renumber_slot ht]
   exact slot_lt_iff.mpr ((hasKey_congr same).mp ht)
 · obtain ⟨a, ha, rfl⟩ := hc.exists_slot hi
   obtain ⟨b, hb, rfl⟩ := hc.exists_slot hn
   rw [renumber_slot ha, renumber_slot hb, slot_eq_iff ((hasKey_congr same).mp hb)] at he
   rw [he]
 · obtain ⟨key, ht, rfl⟩ := hh.exists_slot hi
   have hr := (hasKey_congr same).mpr ht
   exact ⟨g.slot key, slot_lt_iff.mpr hr, renumber_slot hr h⟩

lemma Coherent.renames (coherent : g.Coherent) (coherent' : h.Coherent) (same : g.atlas = h.atlas) :
  Renames (g.renumber h) g h where
 bijective := coherent.bijOn_renumber coherent' same
 nodes i inside := by
  obtain ⟨key, there, rfl⟩ := coherent.exists_slot inside
  rw [renumber_slot there]
  exact (congrFun (congrArg Atlas.node same) key).symm
 placed n := by
  have shown : ∀ {key}, g.slot key ∈ g.links.nodes ↔ h.slot key ∈ h.links.nodes :=
   fun {key} => iff_of_eq (congrArg (key ∈ ·.placed) same)
  rw [mem_map]
  constructor
  · intro placed
    obtain ⟨key, there, rfl⟩ := coherent'.exists_slot (coherent'.links.below n placed)
    exact ⟨g.slot key, shown.mpr placed, renumber_slot ((hasKey_congr same).mpr there) h⟩
  · rintro ⟨i, placed, rfl⟩
    obtain ⟨key, there, rfl⟩ := coherent.exists_slot (coherent.links.below i placed)
    rw [renumber_slot there]
    exact shown.mp placed
 edges e := by
  have shown : ∀ {a b}, (g.slot a, g.slot b) ∈ g.links.edges ↔ (h.slot a, h.slot b) ∈ h.links.edges :=
   fun {a b} => iff_of_eq (congrArg ((a, b) ∈ ·.linked) same)
  rw [mem_map]
  constructor
  · intro edge
    obtain ⟨src, dst⟩ := coherent'.links.closed e edge
    obtain ⟨a, ha, there⟩ := coherent'.exists_slot (coherent'.links.below _ src)
    obtain ⟨b, hb, there'⟩ := coherent'.exists_slot (coherent'.links.below _ dst)
    obtain rfl : (h.slot a, h.slot b) = e := Prod.ext there there'
    exact ⟨(g.slot a, g.slot b), shown.mpr edge, Prod.ext (renumber_slot ((hasKey_congr same).mpr ha) h)
     (renumber_slot ((hasKey_congr same).mpr hb) h)⟩
  · rintro ⟨⟨i, j⟩, edge, rfl⟩
    obtain ⟨src, dst⟩ := coherent.links.closed _ edge
    obtain ⟨a, ha, rfl⟩ := coherent.exists_slot (coherent.links.below i src)
    obtain ⟨b, hb, rfl⟩ := coherent.exists_slot (coherent.links.below j dst)
    rw [Prod.map_apply, renumber_slot ha, renumber_slot hb]
    exact shown.mp edge
 entries := by
  have own : ∀ n ∈ h.entries, h.renumber h n = n := by
   intro n member
   obtain ⟨key, there, rfl⟩ := coherent'.exists_slot (coherent'.entries n member)
   exact renumber_slot there h
  have keys : g.entries.map g.keyAt = h.entries.map h.keyAt := congrArg Atlas.entries same
  calc h.entries = h.entries.map (h.renumber h) := ((map_congr_left own).trans h.entries.map_id').symm
   _ = (h.entries.map h.keyAt).map (fun key => (key.map h.slot).getD 0) := by rw [map_map]; rfl
   _ = (g.entries.map g.keyAt).map (fun key => (key.map h.slot).getD 0) := by rw [keys]
   _ = g.entries.map (g.renumber h) := by rw [map_map]; rfl

end Graph

/-! ## Reflective calls on an atlas -/

namespace Atlas.Strand

variable (kind : NodeKind) (mark : String) (created : Bool) (rules : Rules) (hop dst : Sig)

def call : Strand := ⟨.ofMethod kind dst, .owned dst, mark, dst.key⟩

/-- The class of an object that is created, above its constructor. -/
def cls (dst : Sig) : Strand := ⟨.ofClass dst.cls, .inClass dst.cls, dst.cls, dst.key⟩

/-- A permission below the method that needs it. -/
def permission (perm level : String) : Strand :=
 let key := Build.markKey hop dst "PERMISSION" ++ " " ++ perm
 ⟨.ofPermission key perm, .granting dst perm level, dst.key, key⟩

/-- The permission that a method needs by the rules, if it has a level. -/
def needed : List Strand :=
 match rules.lookup dst.rule with
 | none => []
 | some perm => (Permission.level? perm).toList.map (permission hop dst perm)

/-- The target of a reflective call, with its class if an object is created. -/
def called : List Strand := call kind mark dst :: if created then [cls dst] else []

/-- What charting a reflective call lays. -/
def reflected (src hop dst : Sig) : List Strand :=
 called kind (Build.markKey src hop mark) created dst ++ needed rules hop dst

end Atlas.Strand

namespace Build

open Atlas

variable {g : Graph} {rules : Rules}

lemma atlas_addNeeded (hg : ∀ rule ∈ rules, (Permission.level? rule.2).isSome) (hc : g.Coherent)
  (hop dst : Sig) (ht : g.HasKey dst.key) :
  ∃ h, play (addNeeded rules hop dst (g.slot dst.key)) g = (.ok (), h) ∧
   h.atlas = (Strand.needed rules hop dst).foldl lay g.atlas := by
 cases hn : rules.lookup dst.rule with
 | none => exact ⟨g, play_addNeeded_none hn _ _ g, by simp only [Strand.needed, hn, foldl_nil]⟩
 | some perm =>
  obtain ⟨before, after, hs, -⟩ := lookup_eq_some_iff.mp hn
  have rule : (dst.rule, perm) ∈ rules := by simp [hs]
  obtain ⟨level, hk⟩ := Option.isSome_iff_exists.mp (hg _ rule)
  rw [play_addNeeded_some hn, play_require_known hk]
  refine ⟨_, rfl, ?_⟩
  rw [hc.atlas_hangBelow ht _ (Node.tells_granting dst perm level)]
  simp only [Strand.needed, hn, hk, Option.toList_some, map_cons, map_nil, foldl_cons, foldl_nil]
  rfl

lemma atlas_reach (hc : g.Coherent) (hm : g.HasKey mark) (kind : NodeKind) (created : Bool)
  (dst : Sig) : let h:= g.reach (g.slot mark) kind created dst
  h.Coherent ∧ h.slot dst.key = g.slot dst.key ∧
   h.atlas = (Strand.called kind mark created dst).foldl lay g.atlas := by
 let x : Node := .ofMethod kind dst
 let h := g.hangBelow (g.slot mark) x (.owned dst)
 have ht := Node.tells_owned dst
 have hh : h.Coherent := hc.hangBelow (slot_lt_iff.mpr hm) x ht
 have hk : h.HasKey dst.key := g.hasKey_touch x ht
 have slot : h.slot dst.key = g.slot dst.key := hc.slot_touch ht (.inr rfl)
 have laid := hc.atlas_hangBelow hm x ht
 cases created with
 | false => exact ⟨hh, slot, laid⟩
 | true =>
  let y : Node := .ofClass dst.cls
  have hi := Node.tells_inClass dst.cls
  have above := hh.atlas_standAbove hk y hi
  rw [slot, laid] at above
  exact ⟨hh.standAbove (slot ▸ slot_lt_iff.mpr hk) y hi, (hh.slot_touch hi (.inl hk)).trans slot, above⟩

lemma atlas_addReflected (hg : ∀ rule ∈ rules, (Permission.level? rule.2).isSome) (hc : g.Coherent)
  (kind : NodeKind) (mark : String) (created : Bool) (src hop dst : Sig) :
  ∃ h, play (addReflected kind mark created rules src hop dst) g = (.ok (), h) ∧
   h.atlas = g.atlas.chart (markKey src hop mark)
    (Strand.reflected kind mark created rules src hop dst) := by
 by_cases hm : g.HasKey (markKey src hop mark)
 · obtain ⟨hh, slot, laid⟩ := atlas_reach hc hm kind created dst
   obtain ⟨y, at_slot, same⟩ := g.at_slot_reach (g.slot (markKey src hop mark)) kind created dst
   obtain ⟨h, ends, hs⟩ := atlas_addNeeded hg hh hop dst ⟨_, y, at_slot, same⟩
   rw [slot, <- play_addReflected hm] at ends
   refine ⟨h, ends, ?_⟩
   rw [hs, laid, chart, if_pos (isSome_node_atlas.mpr hm), Strand.reflected, foldl_append]
 · refine ⟨g, play_seek_none hm _ _, ?_⟩
   rw [chart, if_neg (mt isSome_node_atlas.mp hm)]

end Build

/-! ## Names without blanks

When names have no blanks, a key tells its names, and the number of blanks tells what it is the key of.
-/

/-- A name without blanks. -/
def Tight (name : String) : Prop := ' ' ∉ name.toList

instance (name : String) : Decidable (Tight name) := inferInstanceAs (Decidable (¬ _))

/-- A method none of whose names has a blank. -/
def Sig.Tight (m : Sig) : Prop :=
 CallGraph.Tight m.cls ∧ CallGraph.Tight m.name ∧ CallGraph.Tight m.desc

instance (m : Sig) : Decidable m.Tight := inferInstanceAs (Decidable (_ ∧ _))

lemma Tight.split (ha : Tight a) (hb : Tight b) (same : a ++ (" " ++ c) = b ++ (" " ++ d)) : a = b ∧ c = d := by
 have same := congrArg String.toList same
 simp only [String.toList_append] at same
 exact (Lookup.split_at ha hb same).imp String.toList_inj.mp String.toList_inj.mp

namespace Sig.Tight

variable {m n : Sig}

lemma key_append_inj (hm : m.Tight) (hn : n.Tight)
  (same : m.key ++ (" " ++ a) = n.key ++ (" " ++ b)) : m = n ∧ a = b := by
 simp only [key, String.append_assoc] at same
 obtain ⟨cls, same⟩ := hm.1.split hn.1 same
 obtain ⟨name, same⟩ := hm.2.1.split hn.2.1 same
 obtain ⟨hd, rest⟩ := hm.2.2.split hn.2.2 same
 cases n
 cases cls
 cases name
 cases hd
 exact ⟨rfl, rest⟩

lemma key_inj (hm : m.Tight) (hn : n.Tight) (same : m.key = n.key) : m = n :=
 (hm.key_append_inj hn (congrArg (· ++ (" " ++ "")) same)).1

end Sig.Tight

def blanks (s : String) : Nat := s.toList.count ' '

lemma blanks_append (s t : String) : blanks (s ++ t) = blanks s + blanks t := by
 rw [blanks, String.toList_append, count_append]
 rfl

lemma Tight.blanks_eq (free : Tight name) : blanks name = 0 := count_eq_zero.mpr free

lemma Sig.Tight.blanks_key {m : Sig} (free : m.Tight) : blanks m.key = 2 := by
 have one : blanks " " = 1 := rfl
 simp only [key, blanks_append, free.1.blanks_eq, free.2.1.blanks_eq, free.2.2.blanks_eq, one]

lemma blanks_markKey (hs : src.Tight) (ht : hop.Tight) (mark : String) :
  blanks (Build.markKey src hop mark) = 6 + blanks mark := by
 have one : blanks " " = 1 := rfl
 simp only [Build.markKey, blanks_append, hs.blanks_key, ht.blanks_key, one]

namespace Atlas.Strand

variable {kind : NodeKind} {hop dst src through' : Sig} {s : Strand}

/-- The strands that a reflective call consists of. -/
inductive Of (kind : NodeKind) (hop dst : Sig) : Strand -> Prop where
 | call {mark : String} : Of kind hop dst (call kind mark dst)
 | cls : Of kind hop dst (cls dst)
 | permission {perm level : String} : Permission.level? perm = some level ->
   Of kind hop dst (permission hop dst perm level)

lemma of_needed (hm : s ∈ needed rules hop dst) : s.Of kind hop dst := by
 unfold needed at hm
 split at hm
 · cases hm
 · obtain ⟨level, hk, rfl⟩ := mem_map.mp hm
   exact .permission (Option.mem_toList.mp hk)

lemma of_reflected (hm : s ∈ reflected kind mark created rules src hop dst) : s.Of kind hop dst := by
 rcases mem_append.mp hm with hm | hm
 · rcases mem_cons.mp hm with rfl | hm
   · exact .call
   · cases created with
     | false => cases hm
     | true => exact mem_singleton.mp hm ▸ .cls
 · exact of_needed hm

lemma blanks_permission (ht : hop.Tight) (hg : dst.Tight)
  (perm level : String) : 7 ≤ blanks (permission hop dst perm level).node.key := by
 have mark := blanks_markKey ht hg "PERMISSION"
 have one : blanks " " = 1 := rfl
 change 7 ≤ blanks (Build.markKey hop dst "PERMISSION" ++ " " ++ perm)
 rw [blanks_append, blanks_append]
 omega

/-- The number of blanks in its key tells what a strand is. -/
lemma blanks_of (hs : s.Of kind hop dst) (free : hop.Tight ∧ dst.Tight) :
  (∃ mark, s = call kind mark dst) ∧ blanks s.node.key = 2 ∨ s = cls dst ∧ blanks s.node.key = 0 ∨
   (∃ perm level, Permission.level? perm = some level ∧ s = permission hop dst perm level) ∧ 7 ≤ blanks s.node.key := by
 cases hs with
 | call => exact .inl ⟨⟨_, rfl⟩, free.2.blanks_key⟩
 | cls => exact .inr (.inl ⟨rfl, free.2.1.blanks_eq⟩)
 | permission hk => exact .inr (.inr ⟨⟨_, _, hk, rfl⟩, blanks_permission free.1 free.2 _ _⟩)

lemma Of.ne_mark (hr : s.Of kind hop dst) (ht : hop.Tight ∧ dst.Tight) (hs : src.Tight) (ht' : through'.Tight)
  (free : CallGraph.Tight mark) : Build.markKey src through' mark ≠ s.node.key := by
 intro same
 have six := blanks_markKey hs ht' mark
 rw [same, free.blanks_eq] at six
 rcases blanks_of hr ht with ⟨-, n⟩ | ⟨-, n⟩ | ⟨-, n⟩ <;> omega

/-- Strands of reflective calls agree, unless one invokes what the other one creates. -/
lemma Of.agree
  (hs : s.Of kind hop dst) (ht : t.Of kind' through' target') (free : hop.Tight ∧ dst.Tight)
  (hf : through'.Tight ∧ target'.Tight) (ha : dst = target' -> kind = kind') : s.Agree t := by
 intro same
 have hc := congrArg blanks same
 rcases blanks_of hs free with ⟨⟨_, rfl⟩, n⟩ | ⟨rfl, n⟩ | ⟨⟨perm, level, hn, rfl⟩, n⟩ <;>
  rcases blanks_of ht hf with ⟨⟨_, rfl⟩, n'⟩ | ⟨rfl, n'⟩ | ⟨⟨perm', level', hk, rfl⟩, n'⟩ <;> try omega
 · obtain rfl := free.2.key_inj hf.2 same
   rw [ha rfl]
   exact ⟨rfl, rfl⟩
 · have hm : dst.cls = target'.cls := same
   simp only [Strand.cls, hm, and_self]
 · have keys : Build.markKey hop dst "PERMISSION" ++ " " ++ perm =
    Build.markKey through' target' "PERMISSION" ++ " " ++ perm' := same
   simp only [Build.markKey, String.append_assoc] at keys
   obtain ⟨rfl, rest⟩ := free.1.key_append_inj hf.1 keys
   obtain ⟨rfl, last⟩ := free.2.key_append_inj hf.2 rest
   obtain rfl := (String.append_right_inj " ").mp ((String.append_right_inj "PERMISSION").mp last)
   obtain rfl := Option.some.inj (hn.symm.trans hk)
   exact ⟨rfl, rfl⟩

end Atlas.Strand

end DexLens.CallGraph
