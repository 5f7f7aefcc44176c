import DexLens.Proofs.CallGraph.Growth

/-! # Moves in the making of a call graph

All that is ever done to a call graph are a few moves: a node is made unless its key is known, it is told something,
and an edge joins it to a node that is there. One thing can go wrong: the node of a permission without a level is
joined to nothing. Each function that makes call graphs is an equation on graphs here, and a sequence of moves.
-/

namespace DexLens.CallGraph

open Effect Graph Keeps List Node Permission

/-! ## The nodes that are made -/

/-- A mark is known by the text at the end of its key; it belongs to a call, or to a method where the system enters a
    part of the application. -/
inductive Entity where
 | method (m : Sig)
 | cls (name : String)
 | mark (text : String) (src dst : Sig)
 | entry (text : String) (m : Sig)
 | permission (src dst : Sig) (perm : String)
 | file (name : String)

def Entity.key : Entity -> String
 | method m => m.key
 | cls name | file name => name
 | mark text src dst => Build.markKey src dst text
 | entry text m => m.key ++ " " ++ text
 | permission src dst perm => Build.markKey src dst "PERMISSION" ++ " " ++ perm

/-- The nodes that are made for a file, with their kinds. -/
inductive Facts.Makes (f : Facts) (parts : Option Components) : NodeKind -> Entity -> Prop where
 | called {m} : m ∈ f.called -> Makes f parts (.ofSig m.name) (.method m)
 | cls {m} : m ∈ f.called -> Makes f parts .cls (.cls m.cls)
 | invoke {c} : c ∈ f.invokes -> Makes f parts .hiddenCall (.mark "REFL_INVOKE" c.src c.dst)
 | creation {c} : c ∈ f.makings -> Makes f parts .hiddenMaking (.mark "REFL_NEWINSTANCE" c.src c.dst)
 | load {c} : c ∈ f.loads -> Makes f parts .load (.mark "DEXLOAD" c.src c.dst)
 | activity {a name} : a ∈ parts -> name ∈ a.activities ->
   Makes f parts .activity (.entry "ACTIVITY" ⟨Descriptor.ofDottedName name, "onCreate", "(Landroid/os/Bundle;)V"⟩)
 | service {a name} : a ∈ parts -> name ∈ a.services ->
   Makes f parts .service (.entry "SERVICE" ⟨Descriptor.ofDottedName name, "onCreate", "()V"⟩)
 | receiver {a name} : a ∈ parts -> name ∈ a.receivers -> Makes f parts .service (.entry "RECEIVER"
   ⟨Descriptor.ofDottedName name, "onReceive", "(Landroid/content/Context;Landroid/content/Intent;)V"⟩)
 | permission {pc} : pc ∈ f.protected' -> Makes f parts .permission (.permission pc.2.src pc.2.dst pc.1)
 | body {t} : t ∈ f.threads -> Makes f parts .method (.method t.body)
 | start {t} : t ∈ f.threads -> Makes f parts .method (.method { t.body with name := "start" })
 | constructor {t c} : t ∈ f.threads -> c ∈ t.constructors -> Makes f parts .constructor (.method { c with name := "<init>" })

namespace Graph

variable {lax : Prop} {allows : NodeKind -> String -> Prop} {g h : Graph}

/-- One move in the making of a call graph, where the nodes that are made are allowed. -/
inductive Move (lax : Prop) (allows : NodeKind -> String -> Prop) (g : Graph) : Graph -> Prop where
 /-- A node is placed by itself. -/
 | settle {x tell} : allows x.kind x.key -> Tells tell -> Move lax allows g ((g.touch x tell).place (g.slot x.key))
 | below {u x tell} : u < g.nodes.length -> allows x.kind x.key -> Tells tell -> Move lax allows g (g.hangBelow u x tell)
 | above {u x tell} : u < g.nodes.length -> allows x.kind x.key -> Tells tell -> Move lax allows g (g.standAbove u x tell)
 /-- Two nodes are made and joined. -/
 | pair {x y} : allows x.kind x.key -> allows y.kind y.key ->
   Move lax allows g (((g.ensure x).ensure y).join ((g.ensure x).slot y.key) (g.slot x.key))
 | join {u v} : u < g.nodes.length -> v < g.nodes.length -> Move lax allows g (g.join u v)
 | enter {u} : u < g.nodes.length -> Move lax allows g (g.enter u)
 /-- A permission is found to have no level before its node is joined to any other. -/
 | slip {key perm m} : lax -> level? perm = none -> allows .permission key ->
   Move lax allows g (g.touch (.ofPermission key perm) (.asking m perm))

def Moves (lax : Prop) (allows : NodeKind -> String -> Prop) : Graph -> Graph -> Prop := Relation.ReflTransGen (Move lax allows)

abbrev Leads : Graph -> Graph -> Prop := Moves False fun _ _ => True

abbrev Changes : Graph -> Graph -> Prop := Moves True fun _ _ => True

instance : Std.Refl (Moves lax allows) := ⟨fun _ => .refl⟩

instance : IsTrans Graph (Moves lax allows) := ⟨fun _ _ _ => .trans⟩

lemma Move.moves (move : g.Move lax allows h) : g.Moves lax allows h := .single move

lemma Moves.keep {P : Graph -> Prop} (step : ∀ {g h}, g.Move lax allows h -> P g -> P h)
  (hm : g.Moves lax allows h) (hs : P g) : P h := by
 induction hm with
 | refl => exact hs
 | tail _ last ih => exact step last ih

lemma Move.grows (move : g.Move lax allows h) : g.Grows h := by
 cases move with
 | settle _ ht => exact (Grows.touch g _ ht).trans (.place _ _)
 | below _ _ ht | above _ _ ht => exact (Grows.touch g _ ht).trans (.join _ _ _)
 | pair => exact ((Grows.ensure g _).trans (.ensure _ _)).trans (.join _ _ _)
 | join => exact .join g _ _
 | enter => exact .enter g _
 | slip => exact .touch g _ (tells_asking _ _)

lemma Moves.grows (hm : g.Moves lax allows h) : g.Grows h := hm.keep (fun move hg => hg.trans move.grows) (refl g)

lemma Moves.retains (hm : g.Moves lax allows h) : g.Retains h := hm.grows.retains

lemma Moves.hasKey {key : String} (hm : g.Moves lax allows h) : g.HasKey key -> h.HasKey key := hm.grows.hasKey

lemma Moves.length_le (hm : g.Moves lax allows h) : g.nodes.length ≤ h.nodes.length := hm.grows.length_le

section

variable (g : Graph) (u : Nat) (kind : NodeKind) (created : Bool) (dst : Sig)

/-- A method that was called by reflection stands below a node, what is created below its class. -/
def reach : Graph :=
 let h := g.hangBelow u (.ofMethod kind dst) (.owned dst)
 if created then h.standAbove (g.slot dst.key) (.ofClass dst.cls) (.inClass dst.cls) else h

lemma grows_reach : (g.hangBelow u (.ofMethod kind dst) (.owned dst)).Grows (g.reach u kind created dst) := by
 cases created with
 | false => exact refl _
 | true => exact (Grows.touch _ _ (tells_inClass dst.cls)).trans (.join _ _ _)

lemma at_slot_reach : ∃ y, (g.reach u kind created dst).nodes[g.slot dst.key]? = some y ∧ y.key = dst.key := by
 obtain ⟨y, told, hn, -⟩ := g.getElem?_touch (.ofMethod kind dst) (.owned dst)
 obtain ⟨z, at_slot, he⟩ := (g.grows_reach u kind created dst).nodes _ _ told
 exact ⟨z, at_slot, he.key.trans hn⟩

end

end Graph

namespace Build

variable {g : Graph}

section

variable (n : Nat) (kind : NodeKind) (m : Sig)

lemma play_find (key : String) (g : Graph) : play (find? key) g = (.ok (g.nodes.findIdx? (·.key == key)), g):= rfl

lemma play_find_some {key} (h : g.HasKey key) : play (find? key) g = (.ok (some (g.slot key)), g) := by
 rw [play_find, findIdx?_eq_some_iff_findIdx_eq.mpr ⟨slot_lt_iff.mpr h, rfl⟩]

lemma play_find_none {key : String} (h : ¬ g.HasKey key) : play (find? key) g = (.ok none, g) := by
 rw [play_find, findIdx_eq_none_iff.mpr h]

lemma play_node_eq (key label : String) (real : Bool) (g : Graph) :
  play (node kind key label real) g = (.ok (g.slot key), g.ensure (.blank kind key label real)) := by
 unfold node
 by_cases ht : g.HasKey key
 · rw [play_ok (play_find_some ht), ensure_of_hasKey ht]
   rfl
 · rw [play_ok (play_find_none ht), ensure_of_not_hasKey ht, slot_of_not_hasKey ht]
   rfl

lemma play_methodNode (g : Graph) :
  play (methodNode kind m) g = (.ok (g.slot m.key), g.ensure (.ofMethod kind m)) := play_node_eq _ _ _ _ g

lemma play_update_eq (tell : Node -> Node) (g : Graph) : play (update n tell) g = (.ok (), g.alter n tell) := rfl

lemma play_belongs (g : Graph) : play (belongs n m) g = (.ok (), g.alter n (.owned m)) := rfl

lemma play_classNode (cls : String) (g : Graph) :
  play (classNode cls) g = (.ok (g.slot cls), g.touch (.ofClass cls) (.inClass cls)) := by
 unfold classNode
 rw [play_ok (play_node_eq _ _ _ _ g)]
 rfl

lemma play_join (u v : Nat) (g : Graph) : play (edge u v) g = (.ok (), g.join u v) := rfl

lemma play_seek_some {key} (h : g.HasKey key) (absent : Build Unit) (go : Nat -> Build Unit) :
  play (seek key absent go) g = play (go (g.slot key)) g := by
 unfold seek
 rw [play_ok (play_find_some h)]

lemma play_seek_none {key} (h : ¬ g.HasKey key) (absent : Build Unit) (go : Nat -> Build Unit) :
  play (seek key absent go) g = play absent g := by
 unfold seek
 rw [play_ok (play_find_none h)]

lemma keeps_seek {key : String}
  (ha : Keeps R absent) (hg : ∀ g, g.HasKey key -> R g (play (go (g.slot key)) g).2) : Keeps R (seek key absent go) := by
 intro g
 by_cases ht : g.HasKey key
 · rw [play_seek_some ht]
   exact hg g ht
 · rw [play_seek_none ht]
   exact ha g

/-! ## The graphs that are left -/

lemma play_addMethod (g : Graph) : play (addMethod m) g =
  (.ok (), (g.touch (.ofMethod (.ofSig m.name) m) (.owned m)).place (g.slot m.key)) := by
 unfold addMethod
 rw [play_ok (play_methodNode _ _ g), play_ok (play_belongs _ _ _)]
 rfl

end

lemma play_addMethods (ms : List Sig) (g : Graph) :
  ∃ h, play (addMethods ms) g = (.ok (), h) ∧ ∀ m ∈ ms, h.HasKey m.key := by
 obtain ⟨h, ends, -, hk⟩ := forM_ok (P := fun _ => True) (Q := fun m h => h.HasKey m.key)
  (fun _ => id) (·.hasKey) (fun m _ g _ => ⟨_, play_addMethod m g, (Grows.touch g _ (tells_owned m)).trans (.place _ _),
   g.hasKey_touch (.ofMethod (.ofSig m.name) m) (tells_owned m)⟩) trivial
 exact ⟨h, ends, hk⟩

lemma play_addCall (hs : g.HasKey c.src.key) (ht : g.HasKey c.dst.key) :
  play (addCall c) g = (.ok (), g.join (g.slot c.src.key) (g.slot c.dst.key)) := by
 rw [addCall, play_seek_some hs, play_seek_some ht]
 rfl

lemma play_addClass (h : g.HasKey m.key) : play (addClass m) g = (.ok (),
  if m.name = "<clinit>" then g.hangBelow (g.slot m.key) (.ofClass m.cls) (.inClass m.cls)
  else if m.name = "<init>" then g.standAbove (g.slot m.key) (.ofClass m.cls) (.inClass m.cls)
  else g) := by
 unfold addClass
 by_cases hi : m.name = "<clinit>"
 · simp only [hi, beq_self_eq_true, Bool.or_true, if_true]
   rw [play_ok (play_find_some h), play_ok (play_classNode _ g)]
   rfl
 · by_cases hc : m.name = "<init>"
   · simp only [hc, beq_self_eq_true, Bool.true_or, if_true]
     rw [play_ok (play_find_some h), play_ok (play_classNode _ g)]
     rfl
   · simp [hi, hc]

lemma play_addMark (h : g.HasKey c.src.key) (kind : NodeKind) (mark label : String) (real : Bool) :
  play (addMark kind mark label real c) g = (.ok (), g.hangBelow (g.slot c.src.key)
   (.blank kind (markKey c.src c.dst mark) label real) (.owned c.src)) := by
 rw [addMark, play_seek_some h, play_ok (play_node_eq _ _ _ _ g), play_ok (play_belongs _ _ _)]
 rfl

lemma play_addEntry (h : g.HasKey m.key) (kind : NodeKind) (mark : String) :
  play (addEntry kind mark m) g = (.ok (), (g.standAbove (g.slot m.key)
   (.blank kind (m.key ++ " " ++ mark) mark false) id).enter (g.slot m.key)) := by
 rw [addEntry, play_seek_some h, standAbove, touch_id, play_ok (play_node_eq _ _ _ _ g), play_ok (play_join _ _ _)]
 rfl

lemma play_require_known {perm level} (hk : level? perm = some level) (key : String)
  (m : Sig) (n : Nat) (g : Graph) : play (require key perm m n) g =
   (.ok (), g.hangBelow n (.ofPermission key perm) (.granting m perm level)) := by
 unfold require protect
 rw [play_ok (play_node_eq _ _ _ _ g), play_ok (play_belongs _ _ _)]
 simp only [hk]
 have told : play (do
    update (g.slot key) fun x => { x with permission := some perm }
    update (g.slot key) fun x => { x with level := some level })
   ((g.ensure (.ofPermission key perm)).alter (g.slot key) (.owned m)) =
   (.ok (), g.touch (.ofPermission key perm) (.granting m perm level)) := by
  rw [play_ok (play_update_eq _ _ _), play_update_eq, alter_alter, alter_alter]
  rfl
 exact (play_ok told).trans (play_join _ _ _)

lemma play_require_unknown (hu : level? perm = none) (key : String)
  (m : Sig) (n : Nat) (g : Graph) : play (require key perm m n) g =
   (.error .noKey, g.touch (.ofPermission key perm) (.asking m perm)) := by
 unfold require protect
 rw [play_ok (play_node_eq _ _ _ _ g), play_ok (play_belongs _ _ _)]
 simp only [hu]
 have hf : play (do
    update (g.slot key) fun x => { x with permission := some perm }
    throw .noKey : Build Unit)
   ((g.ensure (.ofPermission key perm)).alter (g.slot key) (.owned m)) =
   (.error .noKey, g.touch (.ofPermission key perm) (.asking m perm)) := by
  rw [play_ok (play_update_eq _ _ _), play_throw, alter_alter]
  rfl
 exact play_error hf

lemma play_addConstructor (start : Nat) (c : Sig) (g : Graph) : play (addConstructor start c) g =
  (.ok (), g.standAbove start (.ofMethod .constructor { c with name := "<init>" }) id) := by
 unfold addConstructor
 rw [play_ok (play_methodNode _ _ g), standAbove, touch_id]
 rfl

lemma play_addNeeded_none (free : rules.lookup dst.rule = none) (hop : Sig) (n : Nat) (g : Graph) :
  play (addNeeded rules hop dst n) g = (.ok (), g) := by
 unfold addNeeded
 rw [free]
 rfl

lemma play_addNeeded_some (hn : rules.lookup dst.rule = some perm) (hop : Sig) (n : Nat) (g : Graph) :
  play (addNeeded rules hop dst n) g =
   play (require (markKey hop dst "PERMISSION" ++ " " ++ perm) perm dst n) g := by
 unfold addNeeded
 rw [hn]

lemma play_addReflected (h : g.HasKey (markKey src hop mark)) (kind : NodeKind)
  (created : Bool) (rules : Rules) (dst : Sig) :
  play (addReflected kind mark created rules src hop dst) g =
   play (addNeeded rules hop dst (g.slot dst.key))
    (g.reach (g.slot (markKey src hop mark)) kind created dst) := by
 rw [addReflected, play_seek_some h, play_ok (play_methodNode _ _ g), play_ok (play_belongs _ _ _),
  play_ok (play_join _ _ _)]
 cases created with
 | false => rfl
 | true =>
  simp only [if_true]
  rw [play_ok (play_classNode _ _), play_ok (play_join _ _ _)]
  rfl

lemma play_addLoad_marked (h : g.HasKey (markKey src hop "DEXLOAD"))
  (filename : String) : play (addLoad src hop filename) g = (.ok (), g.hangBelow
   (g.slot (markKey src hop "DEXLOAD")) (.blank .loadedFile filename filename false) (.loading filename)) := by
 rw [addLoad, play_seek_some h, play_ok (play_node_eq _ _ _ _ g), play_ok (play_update_eq _ _ _)]
 rfl

/-! ## Every function makes moves -/

section

variable {lax : Prop} {allows : NodeKind -> String -> Prop}
 {n : Nat} {created : Bool} {f : Facts} {mark : String} {parts : Option Components} {kind : NodeKind}

lemma moves_require {key perm : String} (hp : lax ∨ (level? perm).isSome) (ha : allows .permission key) (m : Sig)
  (h : n < g.nodes.length) : g.Moves lax allows (play (require key perm m n) g).2 := by
 cases hl : level? perm with
 | none =>
  rw [play_require_unknown hl]
  exact (Move.slip (hp.resolve_right (by simp [hl])) hl ha).moves
 | some l =>
  rw [play_require_known hl]
  exact (Move.below h ha (tells_granting _ _ _)).moves

lemma moves_addCall (c : Call) : Keeps (Moves lax allows) (addCall c) := by
 refine keeps_seek (.of_throw _) fun g hs => ?_
 by_cases ht : g.HasKey c.dst.key
 · rw [play_seek_some ht]
   exact (Move.join (slot_lt_iff.mpr hs) (slot_lt_iff.mpr ht)).moves
 · rw [play_seek_none ht]
   exact refl g

lemma moves_addClass (ha : allows .cls m.cls) (ht : g.HasKey m.key) : g.Moves lax allows (play (addClass m) g).2 := by
 have hi := slot_lt_iff.mpr ht
 rw [play_addClass ht]
 dsimp only
 split
 · exact (Move.below hi ha (tells_inClass m.cls)).moves
 · split
   · exact (Move.above hi ha (tells_inClass m.cls)).moves
   · exact refl g

lemma moves_addClasses (ha : ∀ m ∈ ms, allows .cls m.cls) (h : ∀ m ∈ ms, g.HasKey m.key) :
  g.Moves lax allows (play (addClasses ms) g).2 :=
 forM_from (P := fun g => ∀ m ∈ ms, g.HasKey m.key) (fun hv ht m hm => hv.hasKey (ht m hm))
  (fun m hm _ ht => moves_addClass (ha m hm) (ht m hm)) h

lemma moves_addMark (ha : allows kind (markKey c.src c.dst mark)) (label : String) (real : Bool) :
  Keeps (Moves lax allows) (addMark kind mark label real c) := by
 intro g
 by_cases ht : g.HasKey c.src.key
 · rw [play_addMark ht]
   exact (Move.below (slot_lt_iff.mpr ht) ha (tells_owned _)).moves
 · rw [addMark, play_seek_none ht]
   exact refl g

lemma moves_addMarks (ha : ∀ c ∈ cs, allows kind (markKey c.src c.dst mark)) (label : String)
  (real : Bool) : Keeps (Moves lax allows) (addMarks kind mark label real cs) :=
 .of_forM_mem fun c hm => moves_addMark (ha c hm) label real

lemma moves_addEntry (ha : allows kind (m.key ++ " " ++ mark)) :
  Keeps (Moves lax allows) (addEntry kind mark m) := by
 intro g
 by_cases ht : g.HasKey m.key
 · rw [play_addEntry ht]
   have hi := slot_lt_iff.mpr ht
   have hm : g.Moves lax allows _ := (Move.above hi ha tells_id (x := .blank kind (m.key ++ " " ++ mark) mark false)).moves
   exact IsTrans.trans _ _ _ hm (Move.enter (hi.trans_le hm.length_le)).moves
 · rw [addEntry, play_seek_none ht]
   exact refl g

lemma moves_addParts (h : ∀ kind e, f.Makes parts kind e -> allows kind e.key) : Keeps (Moves lax allows) (addParts parts) := by
 cases parts with
 | none => exact .of_pure _
 | some a =>
  refine (of_forM_mem fun _ hm => moves_addEntry (h _ _ (.activity rfl hm))).bind fun _ => ?_
  refine (of_forM_mem fun _ hm => moves_addEntry (h _ _ (.service rfl hm))).bind fun _ => ?_
  exact of_forM_mem fun _ hm => moves_addEntry (h _ _ (.receiver rfl hm))

lemma moves_addPermissions (hk : ∀ pc ∈ cs, lax ∨ (level? pc.1).isSome)
  (ha : ∀ pc ∈ cs, allows .permission (Entity.permission pc.2.src pc.2.dst pc.1).key) :
  Keeps (Moves lax allows) (addPermissions cs) :=
 of_forM_mem fun pc hm => keeps_seek (.of_pure _) fun _ ht => moves_require (hk pc hm) (ha pc hm) _ (slot_lt_iff.mpr ht)

lemma moves_addThreads (h : ∀ kind e, f.Makes parts kind e -> allows kind e.key) :
  Keeps (Moves lax allows) (addThreads f.threads) := by
 refine .of_forM_mem fun t hm g => ?_
 let start : Sig := { t.body with name := "start" }
 unfold addThread
 rw [play_ok (play_methodNode _ _ g), play_ok (play_methodNode _ _ _), play_ok (play_join _ _ _)]
 have hp : g.Move lax allows _ := .pair (x := .ofMethod .method t.body) (y := .ofMethod .method start)
  (h _ _ (.body hm)) (h _ _ (.start hm))
 refine IsTrans.trans _ _ _ hp.moves (forM_from
  (P := ((g.ensure (.ofMethod .method t.body)).slot start.key < ·.nodes.length))
  (fun hm hi => hi.trans_le hm.length_le) (fun c hc _ hi => ?_) ?_)
 · rw [play_addConstructor]
   exact (Move.above hi (h _ _ (.constructor hm hc)) tells_id).moves
 · exact slot_lt_ensure _ (.ofMethod .method start)

lemma moves_addMethods (ha : ∀ m ∈ ms, allows (.ofSig m.name) m.key) : Keeps (Moves lax allows) (addMethods ms) := by
 refine of_forM_mem fun m hm g => ?_
 rw [play_addMethod]
 exact (Move.settle (ha m hm) (tells_owned m)).moves

lemma moves_addFile (hk : ∀ pc ∈ f.protected', lax ∨ (level? pc.1).isSome)
  (h : ∀ kind e, f.Makes parts kind e -> allows kind e.key) : Keeps (Moves lax allows) (addFile f parts) := by
 intro g
 obtain ⟨g₁, ends, ht⟩ := play_addMethods f.called g
 have hf : g.Moves lax allows g₁ := (moves_addMethods fun m hm => h _ (.method m) (.called hm)).of_play ends
 have late : Keeps (Moves lax allows) (do
   addMarks .hiddenCall "REFL_INVOKE" "REFLECTION INVOKE" true f.invokes
   addMarks .hiddenMaking "REFL_NEWINSTANCE" "REFLECTION NEW INSTANCE" true f.makings
   addParts parts
   addPermissions f.protected'
   addMarks .load "DEXLOAD" "DYNAMIC CODE LOADING" false f.loads
   addThreads f.threads) :=
  (moves_addMarks (fun _ hm => h _ _ (.invoke hm)) _ _).bind fun _ =>
   (moves_addMarks (fun _ hm => h _ _ (.creation hm)) _ _).bind fun _ => (moves_addParts h).bind fun _ =>
   (moves_addPermissions hk fun _ hm => h _ _ (.permission hm)).bind fun _ =>
   (moves_addMarks (fun _ hm => h _ _ (.load hm)) _ _).bind fun _ => moves_addThreads h
 have hl : Keeps (Moves lax allows) (addCalls f.calls) := .of_forM _ moves_addCall
 unfold addFile
 rw [play_ok ends]
 refine IsTrans.trans _ _ _ hf (bind_from (hl g₁) fun _ g₂ hc => ?_)
 refine bind_from (moves_addClasses (fun m hm => h _ (.cls m.cls) (.cls hm)) fun m hm => ?_) fun _ g₃ _ => late g₃
 exact (hl.of_play hc).hasKey (ht m hm)

variable {rules : Rules} {hop dst : Sig}

lemma moves_addNeeded (hk : lax ∨ ∀ perm, rules.lookup dst.rule = some perm -> (level? perm).isSome)
  (ha : ∀ perm, rules.lookup dst.rule = some perm -> allows .permission (Entity.permission hop dst perm).key)
  (h : n < g.nodes.length) : g.Moves lax allows (play (addNeeded rules hop dst n) g).2 := by
 cases hn : rules.lookup dst.rule with
 | none =>
  rw [play_addNeeded_none hn]
  exact refl g
 | some perm =>
  rw [play_addNeeded_some hn]
  exact moves_require (hk.imp id (· perm hn)) (ha perm hn) dst h

lemma moves_reach (hu : u < g.nodes.length) (hm : allows kind dst.key)
  (hc : created -> allows .cls dst.cls) : g.Moves lax allows (g.reach u kind created dst) := by
 have hr : g.Moves lax allows _ := (Move.below (x := .ofMethod kind dst) hu hm (tells_owned dst)).moves
 cases created with
 | false => exact hr
 | true =>
  have hi : _ < (g.hangBelow u (.ofMethod kind dst) (.owned dst)).nodes.length :=
   g.slot_lt_touch (.ofMethod kind dst) (.owned dst)
  exact IsTrans.trans _ _ _ hr (Move.above (x := .ofClass dst.cls) hi (hc rfl) (tells_inClass dst.cls)).moves

lemma moves_addReflected (hk : lax ∨ ∀ perm, rules.lookup dst.rule = some perm -> (level? perm).isSome)
  (hm : allows kind dst.key) (hc : created -> allows .cls dst.cls)
  (ha : ∀ perm, rules.lookup dst.rule = some perm -> allows .permission (Entity.permission hop dst perm).key)
  (mark : String) (src : Sig) :
  Keeps (Moves lax allows) (addReflected kind mark created rules src hop dst) := by
 intro g
 by_cases ht : g.HasKey (markKey src hop mark)
 · rw [play_addReflected ht]
   refine IsTrans.trans _ _ _ (moves_reach (slot_lt_iff.mpr ht) hm hc) (moves_addNeeded hk ha ?_)
   obtain ⟨y, at_slot, -⟩ := g.at_slot_reach (g.slot (markKey src hop mark)) kind created dst
   exact (List.getElem?_eq_some_iff.mp at_slot).1
 · rw [addReflected, play_seek_none ht]
   exact refl g

lemma moves_addLoad (ha : allows .loadedFile filename) (src hop : Sig) :
  Keeps (Moves lax allows) (addLoad src hop filename) := by
 intro g
 by_cases hm : g.HasKey (markKey src hop "DEXLOAD")
 · rw [play_addLoad_marked hm]
   exact (Move.below (slot_lt_iff.mpr hm) ha (tells_loading filename)).moves
 · rw [addLoad, play_seek_none hm]
   exact refl g

end

lemma leads_addFile (hk : ∀ pc ∈ f.protected', (level? pc.1).isSome)
  (parts : Option Components) : Keeps Leads (addFile f parts) :=
 moves_addFile (fun pc hm => .inr (hk pc hm)) fun _ _ _ => trivial

lemma changes_addFile (f : Facts) (parts : Option Components) : Keeps Changes (addFile f parts) :=
 moves_addFile (fun _ _ => .inl trivial) fun _ _ _ => trivial

lemma changes_addReflected (kind : NodeKind) (mark : String) (created : Bool) (rules : Rules)
  (src hop dst : Sig) : Keeps Changes (addReflected kind mark created rules src hop dst) :=
 moves_addReflected (.inl trivial) trivial (fun _ => trivial) (fun _ _ => trivial) mark src

lemma leads_addLoad (src hop : Sig) (filename : String) :
  Keeps Leads (addLoad src hop filename) := moves_addLoad trivial src hop

end Build

end DexLens.CallGraph
