import DexLens.Proofs.CallGraph.Gathering
import DexLens.Proofs.Risk.Drawing

/-! # What a risk map marks

No step says that a permission is used. Loaded code is said of nodes that are named by the methods that create class
loaders, and an entry is named by a method that was looked for.
-/

namespace DexLens.Risk

open CallGraph Effect List

def markLabels : List String := ["ACTIVITY", "SERVICE", "RECEIVER", "DEXCLASSLOADER"]

namespace Spot

lemma value_set (s : Spot) (k : String) (v : Json) (j : String) :
  (s.set k v).value j = if j = k then v else s.value j := by
 simp only [value, set, assign, Analysis.Usage.lookup_upsert]
 split
 · cases s.attributes.lookup k <;> rfl
 · rfl

/-- What a node may say. Given are the keys of methods that create class loaders. -/
structure Sound (L : List String) (s : Spot) : Prop where
 permissions : s.value "permissions" = .int 0
 details : s.value "permissions_details" = .arr []
 risks : s.risks ⊆ ["DEXCLASSLOADER"]
 loaded : s.value "dynamic_code" = .str "true" ∨ s.risks ≠ [] -> s.key ∈ L
 mark : s.real = true ∨ s.label ∈ markLabels

variable {L : List String} {s : Spot}

lemma sound_fresh (key : String) (m : Sig) {label : String} {real : Bool} (known : real = true ∨ label ∈ markLabels) :
  (fresh key m label real).Sound L := by
 refine ⟨rfl, rfl, nil_subset _, ?_, known⟩
 rintro (same | none)
 on_goal 2 => exact absurd rfl none
 injection same with same
 exact absurd same (by decide)

lemma Sound.set (hs : s.Sound L) {k : String} (v : Json) (hk : k ∉ ["permissions", "permissions_details"])
  (loaded : k = "dynamic_code" -> s.key ∈ L) : (s.set k v).Sound L := by
 simp only [mem_cons, not_mem_nil, or_false, not_or] at hk
 refine ⟨?_, ?_, hs.risks, fun said => ?_, hs.mark⟩
 · rw [value_set, if_neg (Ne.symm hk.1), hs.permissions]
 · rw [value_set, if_neg (Ne.symm hk.2), hs.details]
 · by_cases own : k = "dynamic_code"
   · exact loaded own
   · rw [value_set, if_neg (Ne.symm own)] at said
     exact hs.loaded said

lemma Sound.paint (hs : s.Sound L) {k : String} (v : Json)
  (hk : k ∉ ["permissions", "permissions_details", "dynamic_code"]) : (s.set k v).Sound L := by
 simp only [mem_cons, not_mem_nil, or_false, not_or] at hk
 exact hs.set v (by simp [hk]) fun own => absurd own hk.2.2

lemma Sound.risk (hs : s.Sound L) (own : s.key ∈ L) : ({ s with risks := s.risks ++ ["DEXCLASSLOADER"] } : Spot).Sound L :=
 ⟨hs.permissions, hs.details, append_subset.mpr ⟨hs.risks, .refl _⟩, fun _ => own, hs.mark⟩

end Spot

/-- All nodes are sound, entries have given keys, and so have the nodes at given places. -/
structure Map.Sound (L E : List String) (pins : List (Nat × String)) (g : Map) : Prop where
 spots : ∀ s ∈ g.spots, s.Sound L
 entries : ∀ n ∈ g.entries, ∃ k ∈ E, g.keyAt n = some k
 pins : ∀ p ∈ pins, g.keyAt p.1 = some p.2

namespace Build

variable {L E : List String} {pins : List (Nat × String)} {u n : Nat} {k : String}

/-- What a step does to a sound map is sound, and leaves nodes in their places. -/
abbrev Safe (L E : List String) (pins : List (Nat × String)) {α : Type} (m : Build α) : Prop :=
 Keeps (HandsOn (Map.Sound L E pins)) m

lemma safe_spots {f : List Spot -> List Spot} (each : ∀ g : Map, g.Sound L E pins -> ∀ s ∈ f g.spots, s.Sound L)
  (kept : ∀ (l : List Spot) (n : Nat) k, (l[n]?).map Spot.key = some k -> ((f l)[n]?).map Spot.key = some k) :
  Safe L E pins (modify fun g => { g with spots := f g.spots }) := by
 refine .of_modify fun g hg => ⟨each g hg, fun n hm => ?_, fun p hp => kept _ _ _ (hg.pins p hp)⟩
 obtain ⟨k, hk, here⟩ := hg.entries n hm
 exact ⟨k, hk, kept _ _ _ here⟩

lemma safe_node {s : Spot} (hs : s.Sound L) : Safe L E pins (node s) := by
 refine (Keeps.of_get.bind fun _ => .of_pure _).bind fun found => ?_
 cases found with
 | some i => exact .of_pure i
 | none =>
  refine Keeps.of_get.bind fun _ => (safe_spots (f := (· ++ [s])) (fun g hg => ?_) fun l n k here => ?_).bind
   fun _ => .of_pure _
  · exact forall_mem_append.mpr ⟨hg.spots, forall_mem_singleton.mpr hs⟩
  · obtain ⟨t, at_n, rfl⟩ := Option.map_eq_some_iff.mp here
    rw [getElem?_append_left (List.getElem?_eq_some_iff.mp at_n).1, at_n]
    rfl

/-- Whatever becomes of a node, it keeps its key. -/
lemma safe_update {f : Spot -> Spot} (same : ∀ s, (f s).key = s.key)
  (hf : ∀ s : Spot, s.Sound L -> (∀ k, (n, k) ∈ pins -> s.key = k) -> (f s).Sound L) : Safe L E pins (update n f) := by
 refine safe_spots (f := (·.modify n f)) (fun g hg t hm => ?_) fun l m k here => ?_
 · obtain ⟨m, at_m⟩ := getElem?_of_mem hm
   rw [getElem?_modify, Option.map_eq_map, Option.map_eq_some_iff] at at_m
   obtain ⟨s, at_m, rfl⟩ := at_m
   have hs := hg.spots s (mem_of_getElem? at_m)
   split
   · rename_i here
     refine hf s hs fun k hp => ?_
     have pinned := hg.pins _ hp
     rw [Map.keyAt, here, at_m] at pinned
     exact Option.some.inj pinned
   · exact hs
 · obtain ⟨s, at_m, rfl⟩ := Option.map_eq_some_iff.mp here
   rw [getElem?_modify, at_m, Option.map_eq_map, Option.map_some, Option.map_some]
   split
   · rw [same]
   · rfl

lemma safe_paint (n : Nat) {k : String} (v : Json) (hk : k ∉ ["permissions", "permissions_details", "dynamic_code"]) :
  Safe L E pins (update n (·.set k v)) := safe_update (fun _ => rfl) fun _ hs _ => hs.paint v hk

lemma safe_refer (u v : Nat) (place : Option Nat) : Safe L E pins (refer u v place) :=
 safe_update (fun _ => rfl) fun _ hs _ => { hs with }

lemma safe_call (u v : Nat) : Safe L E pins (call u v) := .of_modify fun _ hg => ⟨hg.spots, hg.entries, hg.pins⟩

lemma safe_method (m : Sig) : Safe L E pins (methodNode m) := safe_node (Spot.sound_fresh _ m (.inl rfl))

lemma safe_addCalls (cs : List Call) : Safe L E pins (addCalls cs) := .of_forM cs fun _ =>
 (safe_method _).bind fun _ => (safe_method _).bind fun _ => (safe_call _ _).bind fun _ => safe_refer _ _ _

lemma safe_addCreations (cs : List (String × Sig × Nat)) : Safe L E pins (addCreations cs) := by
 refine .of_forM cs fun _ => (safe_method _).bind fun _ =>
  (safe_node (Spot.sound_fresh _ _ (.inl rfl))).bind fun _ => .bind ?_ fun _ => safe_refer _ _ _
 exact .of_modify fun _ hg => ⟨hg.spots, hg.entries, hg.pins⟩

lemma safe_addThreads (ts : List ThreadBody) : Safe L E pins (addThreads ts) := by
 refine .of_forM ts fun t => (safe_method _).bind fun _ => (safe_method _).bind fun _ =>
  (safe_call _ _).bind fun _ => (safe_refer _ _ _).bind fun _ => .of_forM _ fun c => ?_
 exact (safe_method _).bind fun _ => (safe_call _ _).bind fun _ => safe_refer _ _ _

/-- A step that goes on with the place of a key. -/
lemma safe_seek {f : Option Nat -> Build α} (missing : Safe L E pins (f none))
  (found : ∀ u, Safe L E ((u, k) :: pins) (f (some u))) : Safe L E pins (find? k >>= f) := by
 intro g hg
 rw [play_ok (show play (find? k) g = (.ok (g.spots.findIdx? (·.key == k)), g) from rfl)]
 cases hf : g.spots.findIdx? (·.key == k) with
 | none => exact missing g hg
 | some u =>
  have all := found u g ⟨hg.spots, hg.entries, forall_mem_cons.mpr ⟨Map.keyAt_of_find hf, hg.pins⟩⟩
  exact ⟨all.spots, all.entries, (forall_mem_cons.mp all.pins).2⟩

lemma safe_addEntry (type : String) (hl : label ∈ markLabels) (colour : Json) {m : Sig} (hm : m.key ∈ E) :
  Safe L E pins (addEntry type label colour m) := by
 refine safe_seek (.of_pure _) fun u => .bind ?_ fun _ =>
  (safe_node (Spot.sound_fresh _ _ (.inr hl))).bind fun v => (safe_paint v _ (by decide)).bind fun _ =>
  (safe_call v u).bind fun _ => .of_modify fun g hg => ?_
 · exact safe_update (fun _ => rfl) fun s hs _ => (hs.paint _ (by decide)).paint _ (by decide)
 · refine ⟨hg.spots, forall_mem_append.mpr ⟨hg.entries, forall_mem_singleton.mpr ⟨m.key, hm, ?_⟩⟩, hg.pins⟩
   exact hg.pins _ mem_cons_self

lemma safe_addLoader (last : Option Sig) {m : Sig} (hm : m.key ∈ L) : Safe L E pins (addLoader last m) := by
 cases last with
 | none => exact safe_seek (.of_throw _) fun _ => .of_throw _
 | some t =>
  have marked : ∀ pins, Safe L E pins (markNode { t with desc := t.desc ++ " DEXCLASSLOADER" } "DEXCLASSLOADER") :=
   fun _ => safe_node (Spot.sound_fresh _ _ (.inr (by decide)))
  refine safe_seek ((marked _).bind fun _ => .of_throw _) fun u => (marked _).bind fun v => ?_
  have own : ∀ s : Spot, (∀ k, (u, k) ∈ (u, m.key) :: pins -> s.key = k) -> s.key ∈ L :=
   fun s pinned => pinned m.key mem_cons_self ▸ hm
  refine .bind ?_ fun _ => (safe_paint v _ (by decide)).bind fun _ => (safe_call v u).bind fun _ => ?_
  · exact safe_update (fun _ => rfl) fun s hs pinned => hs.set _ (by decide) fun _ => own s pinned
  · refine safe_update (fun s => by split <;> rfl) fun s hs pinned => ?_
    split
    · exact hs
    · exact hs.risk (own s pinned)

lemma safe_checkPermissions (cs : List Call) : Safe L E pins (checkPermissions cs) :=
 .of_forM cs fun _ => safe_seek (.of_pure _) fun _ => .of_throw _

/-- Class loaders are looked at to the end only if their methods are nodes, and there is a call to place the mark at. -/
lemma loaders_known {last : Option Sig} {ms : List Sig} (sub : ∀ m ∈ ms, m.key ∈ L) {g h : Map}
  (hg : g.Sound L E pins) (ends : play (ms.forM (addLoader last)) g = (.ok ⟨⟩, h)) :
  ∀ m ∈ ms, last ≠ none ∧ m.key ∈ h.spots.map Spot.key := by
 induction ms generalizing g pins with
 | nil => exact nofun
 | cons m ms ih =>
  obtain ⟨hm, sub⟩ := forall_mem_cons.mp sub
  obtain ⟨⟨⟩, i, first, rest⟩ := bind_ok ends
  have safe : i.Sound L E pins := Keeps.of_play (safe_addLoader last hm) first hg
  refine forall_mem_cons.mpr ⟨?_, ih sub safe rest⟩
  obtain ⟨found, t, looked, first'⟩ := bind_ok first
  cases looked
  cases last with
  | none => cases first'
  | some t =>
   cases hf : g.spots.findIdx? (·.key == m.key) with
   | none =>
    rw [hf] at first'
    obtain ⟨v, j, -, fails⟩ := bind_ok first'
    cases fails
   | some u =>
    have pinned : g.Sound L E ((u, m.key) :: pins) :=
     ⟨hg.spots, hg.entries, forall_mem_cons.mpr ⟨Map.keyAt_of_find hf, hg.pins⟩⟩
    have all : Safe L E ((u, m.key) :: pins) ((m :: ms).forM (addLoader (some t))) :=
     (safe_addLoader _ hm).bind fun _ => .of_forM_mem fun x hx => safe_addLoader _ (sub x hx)
    exact ⟨nofun, Map.mem_keys_of_keyAt ((Keeps.of_play all ends pinned).pins _ mem_cons_self)⟩

/-! ## Whole maps -/

/-- The methods that components are started by, as they are looked for. -/
def sought (a : Components) : List Sig :=
 a.activities.map (fun c => ⟨Descriptor.ofDottedName c, "onCreate", "(Landroid/os/Bundle;)V"⟩) ++
 (a.services.map (fun c => ⟨Descriptor.ofDottedName c, "onCreate", "()V"⟩) ++
 a.receivers.map fun c => ⟨Descriptor.ofDottedName c, "onReceive", "(Landroid/content/Context; Landroid/content/Intent;)V"⟩)

def startDescriptors : List String :=
 ["(Landroid/os/Bundle;)V", "()V", "(Landroid/content/Context; Landroid/content/Intent;)V"]

lemma desc_of_sought (hm : m ∈ sought a) : m.desc ∈ startDescriptors := by
 simp only [sought, mem_append, mem_map] at hm
 rcases hm with ⟨p, -, rfl⟩ | ⟨p, -, rfl⟩ | ⟨p, -, rfl⟩ <;> simp [startDescriptors]

lemma safe_addParts (f : Facts) (parts : Option Components) :
  Safe L (parts.elim [] fun a => (sought a).map Sig.key) pins (addParts f parts) := by
 refine (safe_addCalls _).bind fun _ => (safe_addCreations _).bind fun _ => .bind ?_ fun _ => safe_addThreads _
 cases parts with
 | none => exact .of_pure _
 | some a =>
  have known : ∀ m ∈ sought a, m.key ∈ (sought a).map Sig.key := fun _ => mem_map_of_mem
  obtain ⟨first, known⟩ := forall_mem_append.mp known
  obtain ⟨second, third⟩ := forall_mem_append.mp known
  refine (Keeps.of_forM_mem fun c hc => ?_).bind fun _ => (Keeps.of_forM_mem fun c hc => ?_).bind fun _ =>
   Keeps.of_forM_mem fun c hc => ?_
  · exact safe_addEntry _ (by decide) _ (first _ (mem_map_of_mem hc))
  · exact safe_addEntry _ (by decide) _ (second _ (mem_map_of_mem hc))
  · exact safe_addEntry _ (by decide) _ (third _ (mem_map_of_mem hc))

lemma addFile_sound {f : Facts} {parts : Option Components} {g : Map}
  (ends : play (addFile f parts) Map.empty = (.ok ⟨⟩, g)) :
  g.Sound (f.loaders.map Sig.key) (parts.elim [] fun a => (sought a).map Sig.key) [] ∧
   ∀ m ∈ f.loaders, f.lastTarget ≠ none ∧ m.key ∈ g.spots.map Spot.key := by
 obtain ⟨⟨⟩, h, drawn, ends⟩ := bind_ok ends
 obtain ⟨⟨⟩, i, checked, ends⟩ := bind_ok ends
 have start : h.Sound (f.loaders.map Sig.key) _ [] :=
  Keeps.of_play (safe_addParts f parts) drawn ⟨nofun, nofun, nofun⟩
 have safe := Keeps.of_play (safe_checkPermissions f.needs) checked start
 have known : ∀ m ∈ f.loaders, m.key ∈ f.loaders.map Sig.key := fun _ => mem_map_of_mem
 exact ⟨Keeps.of_play (.of_forM_mem fun m hm => safe_addLoader _ (known m hm)) ends safe,
  loaders_known known safe ends⟩

end Build

namespace Map

variable {f : Facts} {g : Map} {parts : Option Components} {s : Inspect.Inspection}

lemma facts_of_map (ends : (play (Map.ofFile parts) s).1 = .ok g) :
  ∃ f, (play Facts.ofFile s).1 = .ok f ∧ play (Build.addFile f parts) Map.empty = (.ok ⟨⟩, g) := by
 obtain ⟨f, t, gathered, rest⟩ := bind_ok (m := Facts.ofFile) (Prod.ext ends rfl)
 refine ⟨f, congrArg Prod.fst gathered, ?_⟩
 change play (do
  Inspect.Query.of (play (Build.addFile f parts) empty).1
  return (play (Build.addFile f parts) empty).2) t = _ at rest
 rcases made : play (Build.addFile f parts) Map.empty with ⟨_ | ⟨⟩, h⟩
 · rw [made] at rest
   cases rest
 · rw [made] at rest
   cases rest
   rfl

/-- The parameters of a receiver as a file spells them. -/
def spelled : String := "(Landroid/content/Context;Landroid/content/Intent;)V"

/-- The last characters of a key are those of the descriptor. -/
lemma take_reverse_key {m : Sig} (hn : n ≤ m.desc.toList.length) :
  m.key.toList.reverse.take n = m.desc.toList.reverse.take n := by
 simp only [Sig.key, String.toList_append, reverse_append]
 exact take_append_of_le_length (by simpa using hn)

/-- A receiver is no entry, since it is looked for with a blank between its parameters. -/
theorem receivers_not_entered {a : Components} (ends : (play (Map.ofFile (some a)) s).1 = .ok g) (cls : String) :
  ∀ n ∈ g.entries, g.keyAt n ≠ some (Sig.key ⟨cls, "onReceive", spelled⟩) := by
 obtain ⟨f, -, drawn⟩ := facts_of_map ends
 intro n hn same
 obtain ⟨k, hk, here⟩ := (Build.addFile_sound drawn).1.entries n hn
 obtain ⟨m, hm, rfl⟩ := mem_map.mp hk
 have apart : ∀ d ∈ Build.startDescriptors, ∃ i < 28, i ≤ d.toList.length ∧
   d.toList.reverse.take i ≠ spelled.toList.reverse.take i := by decide +kernel
 obtain ⟨i, less, within, differ⟩ := apart _ (Build.desc_of_sought hm)
 have long : i ≤ spelled.toList.length := less.le.trans (by decide +kernel)
 rw [<- take_reverse_key within, Option.some.inj (here.symm.trans same), take_reverse_key long] at differ
 exact differ rfl

/-! ## A specimen -/

/-- A file with a service that calls itself. -/
def started : Dex.File :=
 let blob := ((Sample.blob 44).take 282 ++ Bytes.ofTexts ["onCreate"] ++ (Sample.blob 44).drop 292).set 192 6
 (Dex.File.load false false blob).toOption.getD default

def session : Inspect.Inspection := .start started ⟨[], []⟩ false

lemma started_drawn : ∃ f, (play Facts.ofFile session).1 = .ok f ∧
  ∃ g, (play (Map.ofFile (some ⟨[], ["A"], []⟩)) session).1 = .ok g ∧ g.entries = [0] ∧ f.loaders = [] := by
 decide +kernel

theorem started_entered : ∃ g, (play (Map.ofFile (some ⟨[], ["A"], []⟩)) session).1 = .ok g ∧ g.entries = [0] ∧
  g.keyAt 0 ≠ some (Sig.key ⟨"LA;", "onReceive", spelled⟩) := by
 obtain ⟨f, -, g, ends, one, -⟩ := started_drawn
 exact ⟨g, ends, one, receivers_not_entered ends _ 0 (by simp [one])⟩

end Map

end DexLens.Risk
