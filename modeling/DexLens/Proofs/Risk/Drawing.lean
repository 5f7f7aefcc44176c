import DexLens.Proofs.Analysis.Ledger
import DexLens.Proofs.CallGraph.Moves
import DexLens.Risk.Build

/-! # What a risk map shows

Nodes bear the keys of what is mentioned, each once. Edges and places between two nodes are those of the mentions
that bear their keys.
-/

namespace DexLens.Effect

open List

variable {σ α : Type} {f : α -> ExceptT Fault (StateM σ) PUnit}

/-- `Q` tells whether a step ends well, and then `P` holds after it. -/
def Decides (Q : Prop) (P : σ -> Prop) (m : ExceptT Fault (StateM σ) PUnit) (s : σ) : Prop :=
 (Q -> ∃ t, play m s = (.ok ⟨⟩, t) ∧ P t) ∧ (¬ Q -> ∃ e t, play m s = (.error e, t))

lemma Decides.after {m : ExceptT Fault (StateM σ) α} (ends : play m s = (.ok a, t)) (h : Decides Q P (f a) t) :
  Decides Q P (m >>= f) s := by
 unfold Decides
 rwa [play_ok ends]

lemma Decides.forM {P : List α -> σ -> Prop} {Q : α -> Prop}
  (hr : ∀ x ∈ l, ∀ d s, P d s -> Decides (Q x) (P (d ++ [x])) (f x) s) (hs : P d s) :
  Decides (∀ x ∈ l, Q x) (P (d ++ l)) (l.forM f) s := by
 induction l generalizing d s with
 | nil => exact ⟨fun _ => ⟨s, rfl, by rwa [append_nil]⟩, fun hn => absurd (by simp) hn⟩
 | cons x xs ih =>
  obtain ⟨hf, hl⟩ := forall_mem_cons.mp hr
  rw [forall_mem_cons]
  by_cases hq : Q x
  · obtain ⟨t, ends, hn⟩ := (hf d s hs).1 hq
    have rest := ih hl hn
    rw [append_assoc, singleton_append] at rest
    rw [and_iff_right hq]
    exact .after ends rest
  · obtain ⟨e, t, ends⟩ := (hf d s hs).2 hq
    exact ⟨fun all => absurd all.1 hq, fun _ => ⟨e, t, play_error ends⟩⟩

lemma play_forM {P : List α -> σ -> Prop}
  (hr : ∀ x ∈ l, ∀ d s, P d s -> ∃ t, play (f x) s = (.ok ⟨⟩, t) ∧ P (d ++ [x]) t) (hs : P d s) :
  ∃ t, play (l.forM f) s = (.ok ⟨⟩, t) ∧ P (d ++ l) t :=
 (Decides.forM (Q := fun _ => True) (fun x hm d s hp => ⟨fun _ => hr x hm d s hp, fun hn => absurd trivial hn⟩) hs).1
  fun _ _ => trivial

end DexLens.Effect

namespace DexLens.CallGraph.Digraph

open List

lemma lookup_ensure (t : List (Nat × List Nat)) (n k : Nat) : ((ensure t n).lookup k).getD [] = (t.lookup k).getD [] := by
 unfold ensure
 split
 · rfl
 · rename_i hf
   rw [Lookup.concat (Lookup.eq_none_iff.mpr hf)]
   split
   · rename_i same
     rw [same, Lookup.eq_none_iff.mpr hf]
     rfl
   · rfl

lemma lookup_link (hp : n ∈ t.map (·.1)) (m k : Nat) : ((link t n m).lookup k).getD [] =
   if k = n ∧ m ∉ (t.lookup k).getD [] then (t.lookup k).getD [] ++ [m] else (t.lookup k).getD [] := by
 have hl : link t n m = t.map fun p => if p.1 == n then (p.1, if m ∈ p.2 then p.2 else p.2 ++ [m]) else p := by
  refine map_congr_left fun p _ => ?_
  by_cases own : p.1 = n <;> by_cases hk : m ∈ p.2 <;> simp [own, hk, Prod.ext_iff]
 rw [hl, Lookup.map_of_key t n fun vs => if m ∈ vs then vs else vs ++ [m]]
 by_cases own : k = n
 · have hf : t.lookup k ≠ none := by
    rw [Ne, Lookup.eq_none_iff, own]
    simpa using hp
   obtain ⟨vs, hf⟩ := Option.ne_none_iff_exists'.mp hf
   by_cases hk : m ∈ vs <;> simp [own, own ▸ hf, hk]
 · simp [own]

/-- The edges of a graph that has no node without one. -/
structure Shows (g : Digraph) (E : Nat -> Nat -> Prop) : Prop where
 nodes : ∀ n, n ∈ g.nodes ↔ ∃ m, E n m ∨ E m n
 succs : ∀ a b, b ∈ g.succs a ↔ E a b
 preds : ∀ a b, a ∈ g.preds b ↔ E a b
 once : ∀ a, (g.succs a).Nodup ∧ (g.preds a).Nodup

lemma Shows.of_iff {g : Digraph} (hs : g.Shows E) (same : ∀ a b, E a b ↔ F a b) : g.Shows F := by
 obtain rfl : E = F := funext₂ fun a b => propext (same a b)
 exact hs

lemma succs_addEdge (g : Digraph) (u v a : Nat) : (g.addEdge u v).succs a =
  if a = u ∧ v ∉ g.succs a then g.succs a ++ [v] else g.succs a := by
 have hk : u ∈ (ensure (ensure g.succ u) v).map (·.1) := by simp [mem_keys_ensure]
 refine (lookup_link hk v a).trans ?_
 simp only [lookup_ensure]
 rfl

lemma mem_succs_addEdge (g : Digraph) (u v a b : Nat) :
  b ∈ (g.addEdge u v).succs a ↔ b ∈ g.succs a ∨ a = u ∧ b = v := by
 rw [succs_addEdge]
 split <;> grind

lemma Shows.addEdge {g : Digraph} (hs : g.Shows E) (u v : Nat) :
  (g.addEdge u v).Shows fun a b => E a b ∨ a = u ∧ b = v := by
 have hb : ∀ a, (g.addEdge u v).preds a =
   if a = v ∧ u ∉ g.preds a then g.preds a ++ [u] else g.preds a := by
  intro a
  have hk : v ∈ (ensure (ensure g.pred u) v).map (·.1) := by simp [mem_keys_ensure]
  refine (lookup_link hk u a).trans ?_
  simp only [lookup_ensure]
  rfl
 refine ⟨fun n => ?_, fun a b => ?_, fun a b => ?_, fun a => ⟨?_, ?_⟩⟩
 · rw [mem_nodes_addEdge, hs.nodes]
   constructor
   · rintro (⟨m, edge⟩ | rfl | rfl)
     · exact ⟨m, edge.imp .inl .inl⟩
     · exact ⟨v, .inl (.inr ⟨rfl, rfl⟩)⟩
     · exact ⟨u, .inr (.inr ⟨rfl, rfl⟩)⟩
   · rintro ⟨m, (old | ⟨rfl, -⟩) | old | ⟨-, rfl⟩⟩
     · exact .inl ⟨m, .inl old⟩
     · exact .inr (.inl rfl)
     · exact .inl ⟨m, .inr old⟩
     · exact .inr (.inr rfl)
 · rw [mem_succs_addEdge, hs.succs]
 · rw [hb, <- hs.preds]
   split <;> grind
 · rw [succs_addEdge]
   split
   · exact concat_eq_append ▸ (hs.once a).1.concat (by grind)
   · exact (hs.once a).1
 · rw [hb]
   split
   · exact concat_eq_append ▸ (hs.once a).2.concat (by grind)
   · exact (hs.once a).2

lemma Shows.addEdge_if {g : Digraph} (hs : g.Shows E) (p : Prop) [Decidable p] (u v : Nat) :
  (if p then g.addEdge u v else g).Shows fun a b => E a b ∨ p ∧ a = u ∧ b = v := by
 split
 · next hp => exact (hs.addEdge u v).of_iff (by simp [hp])
 · next hp => exact hs.of_iff (by simp [hp])

end DexLens.CallGraph.Digraph

namespace DexLens.Risk

open CallGraph Effect List

/-- A method calls a method, or creates an object of a class, at some place. -/
structure Mention where
 call : Bool
 (src dst : String)
 offset : Nat

namespace Map

def keyAt (g : Map) (n : Nat) : Option String := g.spots[n]?.map Spot.key

variable {g : Map} {a b n : Nat} {k : String}

lemma mem_keys_of_keyAt (here : g.keyAt n = some k) : k ∈ g.spots.map Spot.key := by
 obtain ⟨s, at_n, rfl⟩ := Option.map_eq_some_iff.mp here
 exact mem_map_of_mem (mem_of_getElem? at_n)

lemma exists_keyAt (hm : k ∈ g.spots.map Spot.key) : ∃ n, g.keyAt n = some k := by
 obtain ⟨n, here⟩ := getElem?_of_mem hm
 exact ⟨n, by rw [keyAt, <- getElem?_map, here]⟩

lemma keyAt_inj (hd : (g.spots.map Spot.key).Nodup) (hf : g.keyAt a = some k) (hs : g.keyAt b = some k) : a = b := by
 rw [keyAt, <- getElem?_map] at hf hs
 have hi : a < (g.spots.map Spot.key).length := (List.getElem?_eq_some_iff.mp hf).1
 exact (getElem?_inj hi hd).mp (hf.trans hs.symm)

lemma keyAt_of_find (hf : g.spots.findIdx? (·.key == k) = some n) : g.keyAt n = some k := by
 obtain ⟨hi, same, -⟩ := findIdx?_eq_some_iff_getElem.mp hf
 rw [keyAt, getElem?_eq_getElem hi, Option.map_some, beq_iff_eq.mp same]

lemma find_iff (hd : (g.spots.map Spot.key).Nodup) : g.spots.findIdx? (·.key == k) = some n ↔ g.keyAt n = some k := by
 refine ⟨keyAt_of_find, fun here => ?_⟩
 cases hf : g.spots.findIdx? (·.key == k) with
 | none =>
  obtain ⟨s, hi, rfl⟩ := mem_map.mp (mem_keys_of_keyAt here)
  simpa using findIdx?_eq_none_iff.mp hf s hi
 | some m => rw [keyAt_inj hd (keyAt_of_find hf) here]

/-- The places where a node refers to another. -/
def places (g : Map) (a b : Nat) : List (Option Nat) := ((g.spots.getD a default).uses.lookup b).getD []

def Joins (g : Map) (e : Mention) (a b : Nat) : Prop := g.keyAt a = some e.src ∧ g.keyAt b = some e.dst

instance (g : Map) (e : Mention) (a b : Nat) : Decidable (g.Joins e a b) := inferInstanceAs (Decidable (_ ∧ _))

/-- A map of mentions. Keys stand for names in a given way. -/
structure Drawn (T : String -> Sig -> Prop) (es : List Mention) (g : Map) : Prop where
 keys : (g.spots.map Spot.key).Nodup
 told : ∀ s ∈ g.spots, T s.key s.method
 known : ∀ e ∈ es, e.src ∈ g.spots.map Spot.key ∧ e.dst ∈ g.spots.map Spot.key
 places : ∀ a b, g.places a b = (es.filter (g.Joins · a b)).map (some ·.offset)
 calls : g.calls.Shows fun a b => ∃ e ∈ es, e.call = true ∧ g.Joins e a b
 creations : g.creations.Shows fun b a => ∃ e ∈ es, e.call = false ∧ g.Joins e a b

namespace Drawn

variable {T : String -> Sig -> Prop} {es : List Mention} {g : Map}

lemma empty : Drawn T [] Map.empty := by
 have hn : Digraph.empty.Shows fun _ _ => False := ⟨by simp [Digraph.nodes, Digraph.empty],
  by simp [Digraph.succs, Digraph.empty], by simp [Digraph.preds, Digraph.empty],
  by simp [Digraph.succs, Digraph.preds, Digraph.empty]⟩
 exact ⟨.nil, nofun, nofun, fun _ _ => rfl, hn.of_iff (by simp), hn.of_iff (by simp)⟩

lemma node (hd : g.Drawn T es) (told : T s.key s.method) (hu : s.uses = []) :
  ∃ n h, play (Build.node s) g = (.ok n, h) ∧ h.Drawn T es ∧ h.keyAt n = some s.key ∧
   ∀ m k, g.keyAt m = some k -> h.keyAt m = some k := by
 have hl : play (Build.find? s.key) g = (.ok (g.spots.findIdx? (·.key == s.key)), g) := rfl
 unfold Build.node
 rw [play_ok hl]
 cases hf : g.spots.findIdx? (·.key == s.key) with
 | some n => exact ⟨n, g, rfl, hd, (find_iff hd.keys).mp hf, fun _ _ => id⟩
 | none =>
  have hr : s.key ∉ g.spots.map Spot.key := by simpa using findIdx?_eq_none_iff.mp hf
  let h : Map := { g with spots := g.spots ++ [s] }
  have hk : ∀ m, h.keyAt m = if m = g.spots.length then some s.key else g.keyAt m := by
   intro m
   simp only [h, keyAt, getElem?_append]
   rcases lt_trichotomy m g.spots.length with less | rfl | more
   · simp [less, less.ne]
   · simp
   · have : ¬ m < g.spots.length := by omega
     have : ¬ m - g.spots.length = 0 := by omega
     simp [*, more.ne']
  have same : ∀ e ∈ es, ∀ a b, h.Joins e a b ↔ g.Joins e a b := by
   have one : ∀ k ∈ g.spots.map Spot.key, ∀ m, h.keyAt m = some k ↔ g.keyAt m = some k := by
    intro k old m
    rw [hk]
    split
    · rename_i last
      simp only [Option.some.injEq, keyAt, last, getElem?_length, Option.map_none, reduceCtorEq, iff_false]
      rintro rfl
      exact hr old
    · rfl
   intro e hm a b
   exact and_congr (one _ (hd.known e hm).1 a) (one _ (hd.known e hm).2 b)
  refine ⟨g.spots.length, h, rfl, ⟨?_, ?_, ?_, ?_, ?_, ?_⟩, by simp [hk], ?_⟩
  · rw [map_append, map_singleton, <- concat_eq_append]
    exact hd.keys.concat hr
  · exact forall_mem_append.mpr ⟨hd.told, by simpa using told⟩
  · exact fun e hm => ⟨by simp [h, (hd.known e hm).1], by simp [h, (hd.known e hm).2]⟩
  · intro a b
    have kept : h.places a b = g.places a b := by
     simp only [h, Map.places, getD_eq_getElem?_getD, getElem?_append]
     split
     · rfl
     · rename_i out
       rw [getElem?_eq_none (Nat.le_of_not_lt out)]
       by_cases last : a - g.spots.length = 0
       · simp [last, hu]
         rfl
       · rw [getElem?_eq_none (by simp; omega)]
    rw [kept, hd.places]
    exact congrArg _ (filter_congr fun e hm => by simp [same e hm])
  · exact hd.calls.of_iff fun a b => exists_congr fun e =>
     and_congr_right fun hm => and_congr_right fun _ => (same e hm a b).symm
  · exact hd.creations.of_iff fun b a => exists_congr fun e =>
     and_congr_right fun hm => and_congr_right fun _ => (same e hm a b).symm
  · intro m k here
    rw [hk, if_neg, here]
    rintro rfl
    simp [keyAt] at here

/-- Draw a mention between two nodes. -/
def mention (g : Map) (e : Mention) (u v : Nat) : Map :=
 { g with
   spots := g.spots.modify u fun s =>
    { s with uses := Analysis.Usage.upsert s.uses v (· ++ [some e.offset]) [some e.offset] }
   calls := if e.call then g.calls.addEdge u v else g.calls
   creations := if e.call then g.creations else g.creations.addEdge v u }

lemma draw (hd : g.Drawn T es) (hj : g.Joins e u v) : (mention g e u v).Drawn T (es ++ [e]) := by
 have hs : ∀ n, (mention g e u v).keyAt n = g.keyAt n := by
  intro n
  simp only [mention, keyAt, getElem?_modify, Option.map_eq_map, Option.map_map]
  congr 1
  funext s
  dsimp only [Function.comp]
  split <;> rfl
 have keys : (mention g e u v).spots.map Spot.key = g.spots.map Spot.key := by
  refine ext_getElem? fun n => ?_
  simpa only [keyAt, getElem?_map] using hs n
 have same : ∀ a b, g.Joins e a b ↔ a = u ∧ b = v := by
  intro a b
  constructor
  · exact fun here => ⟨keyAt_inj hd.keys here.1 hj.1, keyAt_inj hd.keys here.2 hj.2⟩
  · rintro ⟨rfl, rfl⟩
    exact hj
 have old : ∀ x a b, (mention g e u v).Joins x a b ↔ g.Joins x a b := by
  intro x a b
  unfold Joins
  rw [hs, hs]
 have he : ∀ c a b, (∃ x ∈ es ++ [e], x.call = c ∧ (mention g e u v).Joins x a b) ↔
   (∃ x ∈ es, x.call = c ∧ g.Joins x a b) ∨ e.call = c ∧ a = u ∧ b = v := by
  intro c a b
  simp only [mem_append, mem_singleton, or_and_right, exists_or, exists_eq_left, old, same]
 refine ⟨keys ▸ hd.keys, ?_, ?_, ?_, ?_, ?_⟩
 · intro s hm
   obtain ⟨n, at_n⟩ := getElem?_of_mem hm
   rw [mention, getElem?_modify, Option.map_eq_map, Option.map_eq_some_iff] at at_n
   obtain ⟨s', at_n, rfl⟩ := at_n
   have told := hd.told s' (mem_of_getElem? at_n)
   split <;> exact told
 · rw [keys]
   refine forall_mem_append.mpr ⟨hd.known, ?_⟩
   exact forall_mem_singleton.mpr ⟨mem_keys_of_keyAt hj.1, mem_keys_of_keyAt hj.2⟩
 · intro a b
   have more : (mention g e u v).places a b = g.places a b ++ if a = u ∧ b = v then [some e.offset] else [] := by
    obtain ⟨s, at_u, -⟩ := Option.map_eq_some_iff.mp hj.1
    simp only [mention, Map.places, getD_eq_getElem?_getD, getElem?_modify, Option.map_eq_map]
    by_cases here : u = a
    · subst here
      simp only [at_u, Option.map_some, Option.getD_some, if_true, true_and, Analysis.Usage.lookup_upsert]
      by_cases ht : b = v
      · subst ht
        cases s.uses.lookup b <;> simp
      · simp [ht]
    · simp [here, Ne.symm here]
   rw [more, hd.places, filter_append, map_append]
   congr 1
   · exact congrArg _ (filter_congr fun x _ => by simp [old])
   · by_cases here : a = u ∧ b = v <;> simp [old, same, here]
 · exact (hd.calls.addEdge_if (e.call = true) u v).of_iff fun a b => (he true a b).symm
 · have hc : (mention g e u v).creations = if ¬ e.call = true then g.creations.addEdge v u else g.creations := (ite_not ..).symm
   rw [hc]
   exact (hd.creations.addEdge_if _ v u).of_iff fun b a => by rw [he, Bool.not_eq_true, and_comm (a := b = v)]

end Drawn

/-! ## Whole maps -/

def ofCall (c : Call) : Mention := ⟨true, c.src.key, c.dst.key, c.offset⟩

def ofCreation (x : String × Sig × Nat) : Mention := ⟨false, x.2.1.key, x.1, x.2.2⟩

variable {T : String -> Sig -> Prop} {es : List Mention} {g : Map}

lemma Drawn.addCalls (hd : g.Drawn T es) (cs : List Call) (told : ∀ c ∈ cs, T c.src.key c.src ∧ T c.dst.key c.dst) :
  ∃ h, play (Build.addCalls cs) g = (.ok ⟨⟩, h) ∧ h.Drawn T (es ++ cs.map ofCall) := by
 refine play_forM (P := fun done h => Drawn T (es ++ done.map ofCall) h) (d := []) (fun c hm done g hd => ?_)
  (by simpa using hd)
 obtain ⟨u, g₁, hf, hd, at_u, -⟩ := hd.node (s := .fresh c.src.key c.src c.src.key true)
  (told c hm).1 rfl
 obtain ⟨v, g₂, hs, hd, at_v, kept⟩ := hd.node (s := .fresh c.dst.key c.dst c.dst.key true)
  (told c hm).2 rfl
 refine ⟨mention g₂ (ofCall c) u v, (play_ok hf).trans ((play_ok hs).trans rfl), ?_⟩
 rw [map_append, <- append_assoc]
 exact hd.draw ⟨kept u _ at_u, at_v⟩

lemma Drawn.addCreations (hd : g.Drawn T es) (cs : List (String × Sig × Nat))
  (told : ∀ c ∈ cs, T c.2.1.key c.2.1 ∧ T c.1 ⟨c.1, "", ""⟩) :
  ∃ h, play (Build.addCreations cs) g = (.ok ⟨⟩, h) ∧ h.Drawn T (es ++ cs.map ofCreation) := by
 refine play_forM (P := fun done h => Drawn T (es ++ done.map ofCreation) h) (d := []) (fun c hm done g hd => ?_)
  (by simpa using hd)
 obtain ⟨u, g₁, hf, hd, at_u, -⟩ := hd.node (s := .fresh c.2.1.key c.2.1 c.2.1.key true) (told c hm).1 rfl
 obtain ⟨v, g₂, hs, hd, at_v, kept⟩ := hd.node (s := .fresh c.1 ⟨c.1, "", ""⟩ (c.1 ++ "  ") true)
  (told c hm).2 rfl
 refine ⟨mention g₂ (ofCreation c) u v, (play_ok hf).trans ((play_ok hs).trans rfl), ?_⟩
 rw [map_append, <- append_assoc]
 exact hd.draw ⟨kept u _ at_u, at_v⟩

lemma play_checkPermissions (ha : ∀ c ∈ cs, c.dst.key ∉ g.spots.map Spot.key) :
  play (Build.checkPermissions cs) g = (.ok ⟨⟩, g) := by
 obtain ⟨h, ends, rfl⟩ := play_forM (P := fun _ h => h = g) (l := cs) (d := []) (s := g)
  (f := fun c => do if (<- Build.find? c.dst.key).isSome then throw .noKey) (fun c hm _ s here => by
   subst here
   have hn : s.spots.findIdx? (·.key == c.dst.key) = none :=
    findIdx?_eq_none_iff.mpr fun x hi => by
     simpa using fun same => ha c hm (mem_map.mpr ⟨x, hi, same⟩)
   refine ⟨s, ?_, rfl⟩
   rw [play_ok (a := none) (t := s) (by rw [<- hn]; rfl)]
   rfl) rfl
 exact ends

end Map

end DexLens.Risk
