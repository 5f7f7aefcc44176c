import DexLens.Proofs.CallGraph.Moves

/-! # What is charted

A reflective call that has its mark is charted by an edge from the mark to the method, and by one from there to a
permission that the method needs. Charting fails only if the mark is there and that permission has no known level.
-/

namespace DexLens.CallGraph

open Effect Graph Node IsTrans

namespace Graph

variable {mark : String} {tell : Node -> Node} {g : Graph}

/-- The node that stands for a permission a method needs when it is called through another one. -/
def IsPermission (hop dst : Sig) (perm : String) (x : Node) : Prop :=
 x.key = Build.markKey hop dst "PERMISSION" ++ " " ++ perm ∧ x.permission.isSome ∧ x.level.isSome

/-- A call with its mark, the method that was called, and the permission which that method needs. -/
structure Charts (g : Graph) (rules : Rules) (mark : String)
  (hop dst : Sig) : Prop where
 called : g.Joined (·.key = mark) (·.key = dst.key)
 needs : ∀ perm, rules.lookup dst.rule = some perm -> g.Joined (·.key = dst.key) (IsPermission hop dst perm)

lemma isPermission_extends (x y : Node)
  (h : x.Extends y) : IsPermission hop dst perm x -> IsPermission hop dst perm y :=
 fun ⟨same, hn, hl⟩ => ⟨h.key.trans same, h.permission hn, h.level hl⟩

lemma Charts.grows (hc : g.Charts rules mark hop dst) (hg : g.Grows h) :
  h.Charts rules mark hop dst where
 called := hg.joined_keys hc.called
 needs perm hn := hg.joined key_extends isPermission_extends (hc.needs perm hn)

lemma Joined.imp (h : g.Joined p q) (hs : ∀ x, p x -> p' x) (ht : ∀ x, q x -> q' x) :
  g.Joined p' q' := by
 obtain ⟨i, j, x, y, at_i, at_j, hp, hq, edge⟩ := h
 exact ⟨i, j, x, y, at_i, at_j, hs x hp, ht y hq, edge⟩

lemma joined_hangBelow (at_u : g.nodes[u]? = some w) (x : Node) (ht : Tells tell) :
  ∃ y, y.key = x.key ∧ (g.hangBelow u x tell).Joined (·.key = w.key) (· = tell y) := by
 obtain ⟨y, ha, hn, -⟩ := g.getElem?_touch x tell
 obtain ⟨w', at_u, same⟩ := (Grows.touch g x ht).nodes u w at_u
 exact ⟨y, hn, u, _, w', _, at_u, ha, same.key, rfl, Digraph.mem_edges_addEdge.mpr (.inr ⟨rfl, rfl⟩)⟩

lemma joined_below_slot (hm : g.HasKey mark) (x : Node) (ht : Tells tell) :
  (g.hangBelow (g.slot mark) x tell).Joined (·.key = mark) (·.key = x.key) := by
 obtain ⟨w, at_slot, same⟩ := at_slot hm
 obtain ⟨y, hn, hj⟩ := joined_hangBelow at_slot x ht
 refine hj.imp (fun _ hn => hn.trans same) ?_
 rintro _ rfl
 exact (ht y).key.trans hn

lemma Joined.hasKey (h : g.Joined (·.key = mark) q) : g.HasKey mark := by
 obtain ⟨i, -, x, -, at_i, -, same, -, -⟩ := h
 exact ⟨i, x, at_i, same⟩

end Graph

namespace Build

lemma addMarks_hasKey {kind mark label real cs g h} (ends : play (addMarks kind mark label real cs) g = (.ok (), h)) :
  ∀ c ∈ cs, h.HasKey (markKey c.src c.dst mark) := by
 induction cs generalizing g with
 | nil => simp
 | cons c cs ih =>
  obtain ⟨_, g', hf, rest⟩ := bind_ok ends
  have hm : g'.HasKey (markKey c.src c.dst mark) := by
   by_cases hs : g.HasKey c.src.key
   · rw [play_addMark hs] at hf
     obtain ⟨-, rfl⟩ := Prod.mk.inj hf
     exact g.hasKey_touch (.blank kind _ label real) (tells_owned c.src)
   · rw [addMark, play_seek_none hs] at hf
     cases (Prod.mk.inj hf).1
  intro d hb
  rcases List.mem_cons.mp hb with rfl | hl
  · have moves : Keeps Changes (addMarks kind mark label real cs) := moves_addMarks (fun _ _ => trivial) _ _
    exact (moves.of_play rest).hasKey hm
  · exact ih rest d hl

lemma addFile_hasKey (ends : play (addFile f parts) g = (.ok (), h)) :
  (∀ c ∈ f.invokes, h.HasKey (markKey c.src c.dst "REFL_INVOKE")) ∧
  (∀ c ∈ f.makings, h.HasKey (markKey c.src c.dst "REFL_NEWINSTANCE")) ∧
  (∀ c ∈ f.loads, h.HasKey (markKey c.src c.dst "DEXLOAD")) := by
 obtain ⟨_, g₁, -, ends⟩ := bind_ok ends
 obtain ⟨_, g₂, -, ends⟩ := bind_ok ends
 obtain ⟨_, g₃, -, ends⟩ := bind_ok ends
 obtain ⟨_, g₄, hn, ends⟩ := bind_ok ends
 obtain ⟨_, g₅, hi, ends⟩ := bind_ok ends
 obtain ⟨_, g₆, he, ends⟩ := bind_ok ends
 obtain ⟨_, g₇, hne, ends⟩ := bind_ok ends
 obtain ⟨_, g₈, hl, ht⟩ := bind_ok ends
 have all : ∀ kind e, f.Makes parts kind e -> True := fun _ _ _ => trivial
 have late : g₈.Changes h := (moves_addThreads all).of_play ht
 have hd : g₅.Changes h :=
  trans _ _ _ ((moves_addParts all).of_play he) (trans _ _ _
   ((moves_addPermissions (fun _ _ => .inl trivial) fun _ _ => trivial).of_play hne) (trans _ _ _
    ((moves_addMarks (fun _ _ => trivial) _ _).of_play hl) late))
 have hr : g₄.Changes h := trans _ _ _ ((moves_addMarks (fun _ _ => trivial) _ _).of_play hi) hd
 exact ⟨fun c hm => hr.hasKey (addMarks_hasKey hn c hm), fun c hm => hd.hasKey (addMarks_hasKey hi c hm),
  fun c hm => late.hasKey (addMarks_hasKey hl c hm)⟩

def Grantable (rules : Rules) (dst : Sig) : Prop :=
 ∀ perm, rules.lookup dst.rule = some perm -> (Permission.level? perm).isSome

/-- A method that can be granted what it needs gets its permission charted, any other one fails. -/
lemma play_addNeeded (rules : Rules) (hop dst : Sig)
  (at_n : g.nodes[n]? = some x) (same : x.key = dst.key) :
  (Grantable rules dst ∧ ∃ h, play (addNeeded rules hop dst n) g = (.ok (), h) ∧
   ∀ perm, rules.lookup dst.rule = some perm -> h.Joined (·.key = dst.key) (IsPermission hop dst perm)) ∨
  (¬ Grantable rules dst ∧ ∃ h, play (addNeeded rules hop dst n) g = (.error .noKey, h)) := by
 unfold Grantable
 cases rule : rules.lookup dst.rule with
 | none => exact .inl ⟨by simp, g, play_addNeeded_none rule _ _ _, by simp⟩
 | some perm =>
  rw [play_addNeeded_some rule]
  cases hl : Permission.level? perm with
  | none => exact .inr ⟨by simp [hl], _, play_require_unknown hl _ _ _ _⟩
  | some l =>
   refine .inl ⟨by simp [hl], _, play_require_known hl _ _ _ _, ?_⟩
   rintro _ ⟨rfl⟩
   obtain ⟨y, hn, hj⟩ := joined_hangBelow at_n
    (.ofPermission (markKey hop dst "PERMISSION" ++ " " ++ perm) perm) (tells_granting dst perm l)
   refine hj.imp (fun _ hn => hn.trans same) ?_
   rintro _ rfl
   exact ⟨hn, rfl, rfl⟩

/-- All that can come of charting a call on a graph. -/
inductive Charting (rules : Rules) (mark : String) (hop dst : Sig) (g : Graph) :
  Res Unit × Graph -> Prop where
 /-- The call has no mark: nothing happens. -/
 | unmarked : ¬ g.HasKey mark -> Charting rules mark hop dst g (.ok (), g)
 | charted {h} : g.HasKey mark -> Grantable rules dst -> g.Grows h -> h.Charts rules mark hop dst ->
   Charting rules mark hop dst g (.ok (), h)
 /-- The called method needs a permission that has no level. -/
 | refused {h} : g.HasKey mark -> ¬ Grantable rules dst -> g.Grows h ->
   Charting rules mark hop dst g (.error .noKey, h)

lemma Charting.grows (ho : Charting rules mark hop dst g (r, h)) : g.Grows h := by
 cases ho with
 | unmarked => exact refl g
 | charted _ _ hg | refused _ _ hg => exact hg

lemma addReflected_charting (kind : NodeKind) (mark : String) (created : Bool) (rules : Rules)
  (src hop dst : Sig) (g : Graph) : Charting rules (markKey src hop mark) hop dst g
   (play (addReflected kind mark created rules src hop dst) g) := by
 by_cases hm : g.HasKey (markKey src hop mark)
 · have hg := (changes_addReflected kind mark created rules src hop dst g).grows
   rw [play_addReflected hm] at hg ⊢
   let u := g.slot (markKey src hop mark)
   obtain ⟨x, at_slot, same⟩ := g.at_slot_reach u kind created dst
   have hj := (g.grows_reach u kind created dst).joined_keys
    (joined_below_slot hm (.ofMethod kind dst) (tells_owned dst))
   have hl : Changes _ (play (addNeeded rules hop dst (g.slot dst.key)) (g.reach u kind created dst)).2 :=
    moves_addNeeded (.inl trivial) (fun _ _ => trivial) (getElem?_eq_some_iff.mp at_slot).1
   rcases play_addNeeded rules hop dst at_slot same with ⟨hr, h, ends, hn⟩ | ⟨hf, h, ends⟩
   · rw [ends] at hg hl ⊢
     exact .charted hm hr hg ⟨hl.grows.joined_keys hj, hn⟩
   · rw [ends] at hg ⊢
     exact .refused hm hf hg
 · rw [addReflected, play_seek_none hm]
   exact .unmarked hm

lemma play_addLoad (src hop : Sig) (filename : String) (g : Graph) :
  ∃ h, play (addLoad src hop filename) g = (.ok (), h) ∧ g.Grows h ∧
   (g.HasKey (markKey src hop "DEXLOAD") ->
    h.Joined (·.key = markKey src hop "DEXLOAD") (·.key = filename)) := by
 have hg := (leads_addLoad src hop filename g).grows
 by_cases hm : g.HasKey (markKey src hop "DEXLOAD")
 · rw [play_addLoad_marked hm] at hg ⊢
   exact ⟨_, rfl, hg, fun _ => joined_below_slot hm (.blank .loadedFile filename filename false)
    (tells_loading filename)⟩
 · rw [addLoad, play_seek_none hm]
   exact ⟨g, rfl, refl g, (absurd · hm)⟩

end Build

end DexLens.CallGraph
