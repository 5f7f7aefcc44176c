import DexLens.Monitor.Session
import DexLens.Proofs.CallGraph.Charting
import DexLens.Proofs.CallGraph.Gathering

/-! # What a step of a session can do

An analysis only adds calls of interest and lets the call graph grow. A message about a reflective call ends in one
of six ways, a message about a loaded file in one of three.
-/

namespace DexLens.Monitor

open CallGraph Effect Inspect Mirror Build Watch List Prod Session

variable {α : Type} {m n : Sig} {R : Session -> Session -> Prop} {file : Dex.File} {seen : Inspection}

@[simp] lemma play_ofRes (r : Res α) (s : Session) : play (Step.ofRes r) s = (r, s) := by cases r <;> rfl

lemma play_build (m : Build α) (s : Session) :
  play (Step.build m) s = ((play m s.graph).1, { s with graph := (play m s.graph).2 }) :=
 play_ofRes (play m s.graph).1 { s with graph := (play m s.graph).2 }

lemma play_build_eq {m : Build α} {s : Session} {r : Res α} {g : Graph}
  (ends : play m s.graph = (r, g)) : play (Step.build m) s = (r, { s with graph := g }) := by
 rw [play_build, ends]

lemma frameOf_inj : frameOf m = frameOf n ↔ m = n := by
 cases m
 cases n
 simp [frameOf]

lemma methodOf_eq_ok (h : methodOf f = .ok m) : f = frameOf m := by
 unfold methodOf at h
 split at h
 · cases h
   rfl
 · cases h

lemma crossings_unique (read : crossings test stack = .ok (f, frameOf m)) (ha : crossings test stack = .ok (g, frameOf n)) :
  f = g ∧ m = n := by
 obtain ⟨ht, caller⟩ := mk.inj (Except.ok.inj (read.symm.trans ha))
 exact ⟨ht, frameOf_inj.mp caller⟩

namespace Watch

variable {σ κ : Type} (w : Watch σ κ)

def foundAll (xs : List Site) : Watch σ κ :=
 { w with srcs := w.srcs ++ xs, uncovered := w.uncovered ++ xs }

@[simp] lemma foundAll_nil : w.foundAll [] = w := by simp [foundAll]

lemma foundAll_none : ∃ xs, w = w.foundAll xs := ⟨[], by simp⟩

lemma foundAll_foundAll (xs ys : List Site) : (w.foundAll xs).foundAll ys = w.foundAll (xs ++ ys) := by simp [foundAll]

lemma found_foundAll (x : Site) (xs : List Site) : (w.found x).foundAll xs = w.foundAll (x :: xs) := by simp [found, foundAll]

end Watch

namespace Session

/-- Calls of interest were added and the call graph has grown. -/
structure Gains (s t : Session) : Prop where
 needs : t.needs = s.needs
 graph : s.graph.Grows t.graph
 mirrors : ∀ k : Mirror, ∃ xs, k.watch t = (k.watch s).foundAll xs
 loads : ∃ xs, t.loads = s.loads.foundAll xs

lemma Gains.of_books (needs : t.needs = s.needs) (graph : s.graph.Grows t.graph)
  (invokes : ∃ xs, t.invokes = s.invokes.foundAll xs)
  (makings : ∃ xs, t.makings = s.makings.foundAll xs)
  (loads : ∃ xs, t.loads = s.loads.foundAll xs) : Gains s t where
 needs := needs
 graph := graph
 mirrors k := by
  cases k with
  | invoke => exact invokes
  | making => exact makings
 loads := loads

lemma Gains.of_eq (hd : t.needs = s.needs) (hg : t.graph = s.graph)
  (hn : t.invokes = s.invokes) (hi : t.makings = s.makings)
  (hl : t.loads = s.loads) : Gains s t :=
 .of_books hd (hg ▸ refl t.graph) (hn ▸ t.invokes.foundAll_none)
  (hi ▸ t.makings.foundAll_none) (hl ▸ t.loads.foundAll_none)

instance : Std.Refl Gains := ⟨fun _ => .of_eq rfl rfl rfl rfl rfl⟩

instance : IsTrans Session Gains where
 trans _ _ _ first second := by
  refine ⟨second.needs.trans first.needs, IsTrans.trans _ _ _ first.graph second.graph, fun k => ?_, ?_⟩
  · obtain ⟨xs, before⟩ := first.mirrors k
    obtain ⟨ys, later⟩ := second.mirrors k
    exact ⟨xs ++ ys, by rw [later, before, foundAll_foundAll]⟩
  · obtain ⟨xs, before⟩ := first.loads
    obtain ⟨ys, later⟩ := second.loads
    exact ⟨xs ++ ys, by rw [later, before, foundAll_foundAll]⟩

end Session

/-! ## Analyses -/

lemma keeps_ofRes [Std.Refl R] (r : Res α) : Keeps R (Step.ofRes r) := by
 cases r
 · exact .of_throw _
 · exact .of_pure _

lemma keeps_record [Std.Refl R] [IsTrans Session R] (ps : List Analysis.Path)
  (seen : Inspection) (h : ∀ x, Keeps R (add x)) : Keeps R (record ps seen add):=
 .of_forM ps fun _ => (keeps_ofRes _).bind fun _ => h _

/-- The site of a call. -/
def siteOf (c : Call) : Site := ⟨c.src, c.dst⟩

/-- Calls that can be spelled out are noted in their book, one after the other. -/
lemma record_found {w : View} (hl : w.Legible) (hs : w.Shown seen) {ps : List Analysis.Path}
  (hk : ∀ p ∈ ps, p ∈ w.usage.paths) (book : Session -> Watch σ κ) (keep : Watch σ κ -> Session -> Session)
  (same : ∀ s, keep (book s) s = s) (own : ∀ w s, book (keep w s) = w) (last : ∀ v w s, keep v (keep w s) = keep v s)
  (s : Session) : play (record ps seen fun x => modify fun s => keep ((book s).found x) s) s =
   (.ok (), keep ((book s).foundAll ((ps.map w.call).map siteOf)) s) := by
 induction ps generalizing s with
 | nil =>
  rw [map_nil, map_nil, foundAll_nil, same]
  rfl
 | cons p ps ih =>
  obtain ⟨hp, hk⟩ := forall_mem_cons.mp hk
  obtain ⟨t, read, -⟩ := View.answers_callOf (hl p hp) seen hs
  have hc : ((callOf p).run.run seen).1 = .ok (w.call p) := congrArg fst read
  refine (play_ok (a := ()) (t := keep ((book s).found (siteOf (w.call p))) s) ?_).trans ((ih hk _).trans ?_)
  · dsimp only
    rw [hc]
    rfl
  · rw [own, last, found_foundAll]
    rfl

/-- Note the calls of interest of a file, and gather what it contributes to the call graph. -/
def noting (file : Dex.File) : Step Facts := do
 let (r, seen) := callsOfInterest.run.run (Inspect.Inspection.start file (<- get).needs false)
 let (invokes, makings, loads) <- Step.ofRes r
 record invokes seen fun x => modify fun s => { s with invokes := s.invokes.found x }
 record makings seen fun x => modify fun s => { s with makings := s.makings.found x }
 record loads seen fun x => modify fun s => { s with loads := s.loads.found x }
 Step.ofRes (Facts.gather.run.run seen).1

lemma survey_eq (file : Dex.File) (parts : Option Components) :
  survey file parts = noting file >>= fun facts => Step.build (Build.addFile facts parts) := by
 unfold survey noting
 rw [bind_assoc]
 refine bind_congr fun s => ?_
 rcases callsOfInterest.run.run (.start file s.needs false) with ⟨r, seen⟩
 simp only [bind_assoc]

lemma keeps_noting [Std.Refl R] [IsTrans Session R] (hn : ∀ s x, R s { s with invokes := s.invokes.found x })
  (hi : ∀ s x, R s { s with makings := s.makings.found x })
  (load : ∀ s x, R s { s with loads := s.loads.found x }) (file : Dex.File) : Keeps R (noting file) := by
 refine Keeps.of_get.bind fun s => (keeps_ofRes _).bind fun calls => ?_
 refine (keeps_record _ _ fun x => .of_modify fun s => hn s x).bind fun _ => ?_
 refine (keeps_record _ _ fun x => .of_modify fun s => hi s x).bind fun _ => ?_
 exact (keeps_record _ _ fun x => .of_modify fun s => load s x).bind fun _ => keeps_ofRes _

/-- A session in which the calls of interest of a file are noted. -/
abbrev Session.noted (s : Session) (facts : Facts) : Session :=
 { s with
   invokes := s.invokes.foundAll (facts.invokes.map siteOf)
   makings := s.makings.foundAll (facts.makings.map siteOf)
   loads := s.loads.foundAll (facts.loads.map siteOf) }

/-- In a file that is legible the calls of interest can be noted, and what it contributes can be gathered. -/
lemma noting_legible {v : Analysis.Survey} (made : Analysis.Survey.full file = .ok v) {cs : List Dex.ClassDef}
  (hd : file.classDefs = .ok cs) (s : Session) (hl : (View.ofSurvey hd s.needs.calls v).Legible) :
  ∃ facts, Facts.of s.needs file = .ok facts ∧ (View.ofSurvey hd s.needs.calls v).Yields facts ∧
   play (noting file) s = (.ok facts, s.noted facts) := by
 have hh := View.shown_ofSurvey hd made s.needs
 generalize View.ofSurvey hd s.needs.calls v = w at *
 obtain ⟨facts, ha, hy⟩ := View.gather_answers hl
 obtain ⟨seen, asked, hs⟩ := View.answers_interest hl _ hh
 obtain ⟨_, now, -⟩ := ha _ hh
 obtain ⟨_, later, -⟩ := ha seen hs
 have hr : callsOfInterest.run.run (.start file s.needs false) = _ := (play_ok (play_survey_ok made s.needs)).trans asked
 have paths (ts : List (String × String)) := View.mem_paths_of_dsts (w := w) ts
 refine ⟨facts, by rw [Facts.of_surveyed made, now], hy, ?_⟩
 unfold noting
 rw [play_ok (play_get s)]
 simp only [hr]
 rw [play_ok (play_ofRes _ s),
  play_ok (record_found hl hs (paths _) Session.invokes (fun w s => { s with invokes := w }) (fun _ => rfl) (fun _ _ => rfl) (fun _ _ _ => rfl) s),
  play_ok (record_found hl hs (paths _) makings (fun w s => { s with makings := w }) (fun _ => rfl) (fun _ _ => rfl) (fun _ _ _ => rfl) _),
  play_ok (record_found hl hs (paths _) Session.loads (fun w s => { s with loads := w }) (fun _ => rfl) (fun _ _ => rfl) (fun _ _ _ => rfl) _),
  play_ofRes, <- hy.invokes, <- hy.makings, <- hy.loads]
 exact congrArg (·, s.noted facts) (congrArg fst later)

/-- What is gathered of a file are the calls of interest that were noted, and what it shows. -/
lemma noting_ok {s t facts} (ends : play (noting file) s = (.ok facts, t)) :
  Facts.of s.needs file = .ok facts ∧ t = s.noted facts := by
 cases made : Analysis.Survey.full file with
 | error fault =>
  have hf : callsOfInterest.run.run (.start file s.needs false) = _ := play_error (play_survey_error made s.needs)
  unfold noting at ends
  rw [play_ok (play_get s)] at ends
  simp only [hf] at ends
  cases ends
 | ok v =>
  obtain ⟨cs, hd⟩ := View.exists_classDefs made
  by_cases hl : (View.ofSurvey hd s.needs.calls v).Legible
  · obtain ⟨_, hf, -, hn⟩ := noting_legible made hd s hl
    obtain ⟨same, rfl⟩ := mk.inj (hn.symm.trans ends)
    obtain rfl := Except.ok.inj same
    exact ⟨hf, rfl⟩
  · -- The searches leave the view as it is, so nothing can be gathered after them.
    have asked : callsOfInterest.run.run (.start file s.needs false) = _ := play_ok (play_survey_ok made s.needs)
    obtain ⟨e, _, hg⟩ := View.gather_refuses hl _ (View.interest_keeps _ _ (View.shown_ofSurvey hd made s.needs))
    unfold noting at ends
    rw [play_ok (play_get s)] at ends
    simp only [asked] at ends
    obtain ⟨_, _, -, ends⟩ := bind_ok ends
    obtain ⟨_, _, -, ends⟩ := bind_ok ends
    obtain ⟨_, _, -, ends⟩ := bind_ok ends
    obtain ⟨_, _, -, ends⟩ := bind_ok ends
    have hg : (Facts.gather.run.run _).1 = _ := congrArg fst hg
    cases hg.symm.trans (mk.inj ((play_ofRes _ _).symm.trans ends)).1

/-- A survey that ends well has noted the calls of interest that the call graph was extended by. -/
lemma survey_ok (ends : play (survey file parts) s = (.ok (), t)) :
  ∃ facts g, Facts.of s.needs file = .ok facts ∧ play (Build.addFile facts parts) s.graph = (.ok (), g) ∧
   t = { s.noted facts with graph := g } := by
 rw [survey_eq] at ends
 obtain ⟨facts, _, noted, built⟩ := bind_ok ends
 obtain ⟨gathered, rfl⟩ := noting_ok noted
 rw [play_build] at built
 obtain ⟨added, rfl⟩ := mk.inj built
 exact ⟨facts, _, gathered, Prod.ext added rfl, rfl⟩

section

variable (s : Session) (path newPath : String) (blob : Bytes)

/-- What it takes to note calls and to extend the call graph by what a file contributes. -/
lemma keeps_survey [Std.Refl R] [IsTrans Session R]
  (invoke : ∀ s x, R s { s with invokes := s.invokes.found x })
  (making : ∀ s x, R s { s with makings := s.makings.found x })
  (load : ∀ s x, R s { s with loads := s.loads.found x })
  (graph : ∀ (s : Session) facts parts, (∃ w : View, w.Yields facts) ->
   R s { s with graph := (play (Build.addFile facts parts) s.graph).2 })
  (file : Dex.File) (parts : Option Components) : Keeps R (survey file parts) := by
 intro s
 rw [survey_eq]
 refine Keeps.bind_from (keeps_noting invoke making load file s) fun facts t noted => ?_
 rw [play_build]
 exact graph t facts parts (Facts.yields_of (noting_ok noted).1)

lemma keeps_analyse [Std.Refl R] [IsTrans Session R]
  (hs : ∀ file parts, Keeps R (survey file parts)) (blob : Bytes) : Keeps R (analyse blob) := by
 unfold analyse
 split
 · split
   · exact hs _ _
   · exact .of_pure _
 · exact Keeps.of_get.bind fun _ => (keeps_ofRes _).bind fun _ => hs _ _
 · exact .of_throw _

lemma analyse_gains : Keeps Gains (analyse blob) := by
 refine keeps_analyse (keeps_survey ?_ ?_ ?_ ?_) blob
 · exact fun s x => .of_books rfl (refl s.graph) ⟨[x], rfl⟩ (foundAll_none _) (foundAll_none _)
 · exact fun s x => .of_books rfl (refl s.graph) (foundAll_none _) ⟨[x], rfl⟩ (foundAll_none _)
 · exact fun s x => .of_books rfl (refl s.graph) (foundAll_none _) (foundAll_none _) ⟨[x], rfl⟩
 · exact fun s facts parts _ => .of_books rfl (changes_addFile facts parts s.graph).grows (foundAll_none _)
    (foundAll_none _) (foundAll_none _)

lemma play_rename (s : Session) :
  play (rename path newPath) s = (.ok (), { s with disk := (play (rename path newPath) s).2.disk }) := by
 unfold rename
 rw [play_modify]
 cases s.disk.lookup path <;> rfl

/-- The session when the code file of the application is kept, before it is analysed. -/
def Session.opening : Session :=
 let kept := keptPath path (digestOf blob) "main"
 { s with
   disk := (play (rename path kept) { s with disk := put s.disk path blob }).2.disk
   loadCounts := put s.loadCounts (digestOf blob) 1
   dexes := put s.dexes kept (digestOf blob) }

lemma play_begin (s : Session) : play (begin path blob) s =
   play (do analyse blob; modify fun t => { t with initial := t.numbers }) (s.opening path blob) := by
 unfold begin
 rw [play_ok (play_modify _ s), play_ok (play_rename _ _ _), play_ok (play_modify _ _)]
 rfl

end

lemma keeps_begin [IsTrans Session R]
  (ho : ∀ s : Session, R s (s.opening path blob)) (ha : Keeps R (analyse blob))
  (hn : ∀ s, R s { s with initial := s.numbers }) : Keeps R (begin path blob) := by
 intro s
 rw [play_begin]
 exact IsTrans.trans _ _ _ (ho s) (Keeps.bind ha (fun _ => .of_modify hn) _)

lemma begin_gains (path : String) (blob : Bytes) : Keeps Gains (begin path blob) :=
 keeps_begin (fun _ => .of_eq rfl rfl rfl rfl rfl) (analyse_gains blob) fun _ => .of_eq rfl rfl rfl rfl rfl

/-! ## Messages about reflective calls -/

namespace Mirror

variable {caller : Sig}
 {x : Site} (k : Mirror) (f : Watch Suspicion Crossing -> Watch Suspicion Crossing) (s : Session)

@[simp] lemma watch_alter : k.watch (k.alter f s) = f (k.watch s) := by cases k <;> rfl

lemma watch_alter_of_ne {k l : Mirror} (h : l ≠ k) (f : Watch Suspicion Crossing -> Watch Suspicion Crossing)
  (s : Session) : l.watch (k.alter f s) = l.watch s := by
 cases k with
 | invoke =>
  cases l with
  | invoke => exact absurd rfl h
  | making => rfl
 | making =>
  cases l with
  | invoke => rfl
  | making => exact absurd rfl h

lemma alter_alter (g : Watch Suspicion Crossing -> Watch Suspicion Crossing) (s : Session) :
  k.alter f (k.alter g s) = k.alter (fun w => f (g w)) s := by cases k <;> rfl

@[simp] lemma needs_alter : (k.alter f s).needs = s.needs := by cases k <;> rfl

@[simp] lemma graph_alter : (k.alter f s).graph = s.graph := by cases k <;> rfl

@[simp] lemma loadCounts_alter : (k.alter f s).loadCounts = s.loadCounts := by cases k <;> rfl

@[simp] lemma loads_alter : (k.alter f s).loads = s.loads := by cases k <;> rfl

lemma play_build_alter (m : Build α) (s : Session) : play (Step.build m) (k.alter f s) =
   ((play m s.graph).1, k.alter f { s with graph := (play m s.graph).2 }) := by
 rw [play_build]
 cases k <;> rfl

@[simp] lemma watch_graph (g : Graph) : k.watch { s with graph := g } = k.watch s := by cases k <;> rfl

/-- The mark of such a call in the call graph. -/
def mark : Mirror -> Sig -> Sig -> String
 | .invoke, src, hop => markKey src hop "REFL_INVOKE"
 | .making, src, hop => markKey src hop "REFL_NEWINSTANCE"

lemma chart_charting (rules : Rules) (src hop dst : Sig) (g : Graph) :
  Charting rules (k.mark src hop) hop dst g
   (play (k.chart rules src hop dst) g) := by
 cases k <;> exact addReflected_charting ..

/-- The first call of interest of a method. -/
def site? (caller : Sig) : Option Site := (k.watch s).srcs.find? fun x => x.src = caller

lemma site?_src {k : Mirror} {s : Session} (h : k.site? s caller = some x) :
  x.src = caller := by simpa using find?_some h

lemma site?_mem {k : Mirror} {s : Session} (h : k.site? s caller = some x) :
  x ∈ (k.watch s).srcs := mem_of_find?_eq_some h

end Mirror

/-- All that can come of a message about a reflective call. -/
inductive Reflected (k : Mirror) (dst : Sig) (stack : List Frame) (s : Session) :
  Res Unit × Session -> Prop where
 /-- The stack shows no such call, or breaks off. -/
 | unread {e} : crossings k.shows stack = .error e -> Reflected k dst stack s (.error e, s)
 | unexplained {hop caller} : crossings k.shows stack = .ok (hop, caller) ->
   (∀ x ∈ (k.watch s).srcs, frameOf x.src ≠ caller) ->
   Reflected k dst stack s (.ok (), k.alter (·.suspect ⟨hop, dst, stack⟩) s)
 /-- The way was seen before. -/
 | again {hop caller x} : crossings k.shows stack = .ok (hop, frameOf caller) ->
   k.site? s caller = some x -> ⟨caller, hop, dst⟩ ∈ (k.watch s).covered ->
   Reflected k dst stack s (.ok (), k.alter (·.taken x) s)
 /-- The frame of the call is not that of a method. -/
 | misread {hop caller e x} : crossings k.shows stack = .ok (hop, frameOf caller) ->
   k.site? s caller = some x -> ⟨caller, hop, dst⟩ ∉ (k.watch s).covered -> methodOf hop = .error e ->
   Reflected k dst stack s (.error e, k.alter (·.cover ⟨caller, hop, dst⟩) s)
 | charted {via caller x g} : crossings k.shows stack = .ok (frameOf via, frameOf caller) ->
   k.site? s caller = some x -> ⟨caller, frameOf via, dst⟩ ∉ (k.watch s).covered ->
   play (k.chart s.needs.calls caller via dst) s.graph = (.ok (), g) ->
   Reflected k dst stack s
    (.ok (), k.alter (fun w => (w.cover ⟨caller, frameOf via, dst⟩).taken x) { s with graph := g })
 /-- The way was noted, but could not be charted. -/
 | uncharted {via caller x g e} : crossings k.shows stack = .ok (frameOf via, frameOf caller) ->
   k.site? s caller = some x -> ⟨caller, frameOf via, dst⟩ ∉ (k.watch s).covered ->
   play (k.chart s.needs.calls caller via dst) s.graph = (.error e, g) ->
   Reflected k dst stack s
    (.error e, k.alter (·.cover ⟨caller, frameOf via, dst⟩) { s with graph := g })

lemma reflected_cases (k : Mirror) (dst : Sig) (stack : List Frame) (s : Session) :
  Reflected k dst stack s (play (reflected k dst stack) s) := by
 unfold reflected
 cases hf : crossings k.shows stack with
 | error e => exact .unread hf
 | ok pair =>
  obtain ⟨hop, caller⟩ := pair
  rw [play_ok (play_ofRes _ s)]
  simp only
  rw [play_ok (play_get s)]
  cases hn : (k.watch s).srcs.find? fun x => frameOf x.src == caller with
  | none =>
   refine .unexplained hf fun x hm same => ?_
   simpa [same] using find?_eq_none.mp hn x hm
  | some x =>
   obtain rfl : frameOf x.src = caller := by simpa using find?_some hn
   have hr : k.site? s x.src = some x := by simpa [site?, Bool.beq_eq_decide_eq, frameOf_inj] using hn
   by_cases seen : ⟨x.src, hop, dst⟩ ∈ (k.watch s).covered
   · simp only
     rw [play_ok (play_get s)]
     simp only [contains_iff_mem.mpr seen]
     exact .again hf hr seen
   · simp only
     rw [play_ok (play_get s)]
     have hu : (k.watch s).covered.contains ⟨x.src, hop, dst⟩ = false := by simpa using seen
     simp only [hu, Bool.not_false, if_true]
     rw [play_ok (play_modify _ s)]
     cases read : methodOf hop with
     | error e => exact .misread hf hr seen read
     | ok via =>
      obtain rfl := methodOf_eq_ok read
      rw [play_ok (play_ofRes _ _), play_ok (play_get _)]
      rcases ends : play (k.chart s.needs.calls x.src via dst) s.graph with ⟨outcome, g⟩
      have hb := play_build_alter k (·.cover ⟨x.src, frameOf via, dst⟩)
       (k.chart s.needs.calls x.src via dst) s
      rw [ends] at hb
      rw [needs_alter]
      cases outcome with
      | error e =>
       rw [play_error hb]
       exact .uncharted hf hr seen ends
      | ok _ =>
       rw [play_ok hb, play_modify, alter_alter]
       exact .charted hf hr seen ends

namespace Reflected

variable {k : Mirror} {dst : Sig} {stack : List Frame} {s t : Session} {r : Res Unit}
 (ho : Reflected k dst stack s (r, t))

include ho

lemma needs : t.needs = s.needs := by cases ho <;> simp

lemma loads : t.loads = s.loads := by cases ho <;> simp

lemma srcs (l : Mirror) : (l.watch t).srcs = (l.watch s).srcs := by
 by_cases own : l = k
 · subst own
   cases ho <;> simp [suspect, taken, cover]
 · cases ho <;> simp [watch_alter_of_ne own]

lemma loadCounts : t.loadCounts = s.loadCounts := by cases ho <;> simp

lemma grows : s.graph.Grows t.graph := by
 have hc := fun caller via => k.chart_charting s.needs.calls caller via dst s.graph
 cases ho with
 | unread => exact refl s.graph
 | unexplained | again | misread =>
  rw [graph_alter]
  exact refl s.graph
 | @charted via caller _ _ _ _ _ ends | @uncharted via caller _ _ _ _ _ _ ends =>
  rw [graph_alter]
  exact (ends ▸ hc caller via).grows

end Reflected

/-! ## Messages about loaded files -/

namespace Session

variable (s : Session) (path : String) (blob : Bytes)

/-- How often a content was loaded, by its digest. -/
def loadsOf (digest : String) : Nat := (s.loadCounts.lookup digest).getD 0

/-- The name under which a file is kept that is loaded now. -/
def keptAs : String := keptPath path (digestOf blob) (toString (s.loadsOf (digestOf blob) + 1))

/-- One more load of a content. -/
def counting : Session :=
 { s with
   disk := (play (rename path (s.keptAs path blob)) s).2.disk
   loadCounts := put s.loadCounts (digestOf blob) (s.loadsOf (digestOf blob) + 1)
   dexes := put s.dexes (s.keptAs path blob) (digestOf blob) }

lemma srcs_counting : (s.counting path blob).loads.srcs = s.loads.srcs := rfl

end Session

/-- Whether a call of interest is behind a loaded file, and the session then. -/
inductive Explained (kept : String) (stack : List Frame) (s : Session) : Bool × Session -> Prop where
 | unexplained : loadSite s.loads.srcs stack = none ->
   Explained kept stack s (false, { s with loads := s.loads.suspect ⟨kept, stack⟩ })
 /-- The way was seen before. -/
 | again {x} : loadSite s.loads.srcs stack = some x -> ⟨x.src, x.dst, kept⟩ ∈ s.loads.covered ->
   Explained kept stack s (true, { s with loads := s.loads.taken x })
 | charted {x g} : loadSite s.loads.srcs stack = some x -> ⟨x.src, x.dst, kept⟩ ∉ s.loads.covered ->
   play (addLoad x.src x.dst kept) s.graph = (.ok (), g) ->
   Explained kept stack s
    (true, { s with graph := g, loads := (s.loads.taken x).cover ⟨x.src, x.dst, kept⟩ })

namespace Explained

variable {kept : String} {stack : List Frame} {s t : Session} {b : Bool} (ho : Explained kept stack s (b, t))

include ho

lemma needs : t.needs = s.needs := by cases ho <;> rfl

lemma mirrors (k : Mirror) : k.watch t = k.watch s := by cases ho <;> cases k <;> rfl

lemma srcs : t.loads.srcs = s.loads.srcs := by cases ho <;> rfl

lemma found : b = (loadSite s.loads.srcs stack).isSome := by
 cases ho with
 | unexplained hu => simp [hu]
 | again hs | charted hs => simp [hs]

lemma grows : s.graph.Grows t.graph := by
 cases ho with
 | unexplained | again => exact refl s.graph
 | charted _ _ ends => exact ((leads_addLoad _ _ _).of_play ends).grows

end Explained

section

variable (kept path : String) (blob : Bytes) (stack : List Frame) (s : Session)

lemma explainLoad_cases : ∃ b t, play (explainLoad kept stack) s = (.ok b, t) ∧ Explained kept stack s (b, t) := by
 unfold explainLoad
 rw [play_ok (play_get s)]
 cases hf : loadSite s.loads.srcs stack with
 | none => exact ⟨false, _, rfl, .unexplained hf⟩
 | some x =>
  simp only
  rw [play_ok (play_modify _ s), play_ok (play_get _)]
  by_cases seen : ⟨x.src, x.dst, kept⟩ ∈ s.loads.covered
  · have hc : s.loads.covered.contains ⟨x.src, x.dst, kept⟩ = true := by simpa using seen
    simp only [taken, hc]
    exact ⟨true, _, rfl, .again hf seen⟩
  · have ha : s.loads.covered.contains ⟨x.src, x.dst, kept⟩ = false := by simpa using seen
    obtain ⟨g, ends, -⟩ := play_addLoad x.src x.dst kept s.graph
    have hb := play_build_eq
     (s := { s with loads := (s.loads.taken x).cover ⟨x.src, x.dst, kept⟩ }) ends
    simp only [taken, ha]
    exact ⟨true, _, (play_ok (play_modify _ _)).trans (play_ok hb), .charted hf seen ends⟩

lemma play_noteLoad :
  ∃ b t, play (noteLoad path blob stack) s = (.ok (b && decide (s.loadsOf (digestOf blob) = 0)), t) ∧
   Explained (s.keptAs path blob) stack (s.counting path blob) (b, t) := by
 obtain ⟨b, t, ends, he⟩ := explainLoad_cases (s.keptAs path blob) stack (s.counting path blob)
 refine ⟨b, t, ?_, he⟩
 unfold noteLoad
 rw [play_ok (play_get s), play_ok (play_rename _ _ s), play_ok (play_modify _ _)]
 refine (play_ok ends).trans ?_
 have hf : s.loadsOf (digestOf blob) + 1 ≤ 1 ↔ s.loadsOf (digestOf blob) = 0 := by omega
 rw [play_pure, <- decide_eq_decide.mpr hf]
 rfl

/-- A content is analysed when it is loaded for the first time and a call of interest explains that. -/
lemma play_loaded : ∃ b t, Explained (s.keptAs path blob) stack (s.counting path blob) (b, t) ∧
   play (loaded path blob stack) s =
    if b = true ∧ s.loadsOf (digestOf blob) = 0 then play (analyse blob) t else (.ok (), t) := by
 obtain ⟨b, t, hn, he⟩ := play_noteLoad path blob stack s
 refine ⟨b, t, he, ?_⟩
 unfold loaded
 rw [play_ok hn]
 simp only [Bool.and_eq_true, decide_eq_true_eq]
 split <;> rfl

end

end DexLens.Monitor
