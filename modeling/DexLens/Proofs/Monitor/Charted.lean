import DexLens.Proofs.Monitor.Run

/-! # Ways in the call graph

While all steps end well, every call of interest has its mark in the call graph, and every loaded file that was
explained is charted. A reflective call is charted below the mark of what the stack shows, and that need not be a
call that was found in code: then the way counts as seen, but the call graph does not have it.
-/

namespace DexLens.Monitor

open CallGraph Effect Session Mirror List Build Inspect Watch Event

variable (needs : Needs) (unpack : Unpacker) {e : Event}

/-- An edge leads from the mark of the reflective call to the target, and one from there to the permission it needs. -/
def Crossing.ChartedIn (k : Mirror) (s : Session) (c : Crossing) : Prop :=
 ∃ via, c.hop = frameOf via ∧ s.graph.Charts s.needs.calls (k.mark c.src via) via c.dst

def LoadCrossing.ChartedIn (s : Session) (c : LoadCrossing) : Prop :=
 s.graph.Joined (·.key = markKey c.src c.hop "DEXLOAD") (·.key = c.path)

namespace Session

/-- Every way that was seen is in the call graph. -/
structure Charted (s : Session) : Prop where
 mirrors : ∀ (k : Mirror), ∀ c ∈ (k.watch s).covered, c.ChartedIn k s
 loads : ∀ c ∈ s.loads.covered, c.ChartedIn s

/-- Every call of interest has its mark in the call graph. -/
structure Marked (s : Session) : Prop where
 mirrors : ∀ (k : Mirror), ∀ x ∈ (k.watch s).srcs, s.graph.HasKey (k.mark x.src x.dst)
 loads : ∀ x ∈ s.loads.srcs, s.graph.HasKey (markKey x.src x.dst "DEXLOAD")

lemma Charted.extend (h : s.Charted) (needs : t.needs = s.needs) (grown : s.graph.Grows t.graph)
  (mirrors : ∀ k : Mirror, ∀ c ∈ (k.watch t).covered, c ∈ (k.watch s).covered ∨ c.ChartedIn k t)
  (loads : ∀ c ∈ t.loads.covered, c ∈ s.loads.covered ∨ c.ChartedIn t) : t.Charted where
 mirrors k c member := by
  rcases mirrors k c member with old | new
  · obtain ⟨via, read, charted⟩ := h.mirrors k c old
    exact ⟨via, read, needs ▸ charted.grows grown⟩
  · exact new
 loads c member := by
  rcases loads c member with old | new
  · exact grown.joined_keys (h.loads c old)
  · exact new

lemma Charted.gains {s t : Session} (hg : s.Gains t) (h : s.Charted) : t.Charted := by
 refine h.extend hg.needs hg.graph (fun k c hm => .inl ?_) (fun c hm => .inl ?_)
 · obtain ⟨xs, same⟩ := hg.mirrors k
   rwa [same] at hm
 · obtain ⟨xs, same⟩ := hg.loads
   rwa [same] at hm

lemma Marked.of_srcs (h : s.Marked) (grown : s.graph.Grows t.graph)
  (mirrors : ∀ k : Mirror, (k.watch t).srcs = (k.watch s).srcs)
  (loads : t.loads.srcs = s.loads.srcs) : t.Marked where
 mirrors k x member := grown.hasKey (h.mirrors k x (mirrors k ▸ member))
 loads x member := grown.hasKey (h.loads x (loads ▸ member))

lemma Marked.survey {file parts s t} (h : s.Marked) (ends : play (Monitor.survey file parts) s = (.ok (), t)) : t.Marked := by
 obtain ⟨facts, g, -, ha, rfl⟩ := survey_ok ends
 have hg : s.graph.Grows g := ((changes_addFile facts parts).of_play ha).grows
 obtain ⟨hn, hi, hl⟩ := addFile_hasKey ha
 have hr : ∀ {σ κ : Type} {w : Watch σ κ} {cs : List Call} (key : Sig -> Sig -> String),
   (∀ x ∈ w.srcs, s.graph.HasKey (key x.src x.dst)) -> (∀ c ∈ cs, g.HasKey (key c.src c.dst)) ->
   ∀ x ∈ (w.foundAll (cs.map siteOf)).srcs, g.HasKey (key x.src x.dst) := by
  intro σ κ w cs key old new x hm
  rcases mem_append.mp hm with hm | hm
  · exact hg.hasKey (old x hm)
  · obtain ⟨c, ha, rfl⟩ := mem_map.mp hm
    exact new c ha
 refine ⟨fun k => ?_, hr (markKey · · "DEXLOAD") h.loads hl⟩
 cases k with
 | invoke => exact hr (invoke.mark · ·) (h.mirrors .invoke) hn
 | making => exact hr (making.mark · ·) (h.mirrors .making) hi

lemma Marked.analyse (h : s.Marked) (ends : play (Monitor.analyse blob) s = (.ok (), t)) : t.Marked := by
 unfold Monitor.analyse at ends
 split at ends
 · split at ends
   · exact h.survey ends
   · obtain ⟨-, rfl⟩ := Prod.mk.inj ends
     exact h
 · rw [play_ok (play_get s)] at ends
   obtain ⟨⟨file, parts⟩, u, hu, ends⟩ := bind_ok ends
   obtain ⟨-, rfl⟩ := Prod.mk.inj ((play_ofRes _ s).symm.trans hu)
   exact h.survey ends
 · cases (Prod.mk.inj ends).1

lemma Marked.counting {s : Session} (h : s.Marked) (path : String) (blob : Bytes) : (s.counting path blob).Marked :=
 h.of_srcs (refl s.graph) (fun k => by cases k <;> rfl) rfl

lemma Marked.begin (h : s.Marked) (ends : play (Monitor.begin path blob) s = (.ok (), t)) : t.Marked := by
 rw [play_begin] at ends
 obtain ⟨_, u, ha, ends⟩ := bind_ok ends
 obtain ⟨-, rfl⟩ := Prod.mk.inj ends
 have ho : (s.opening path blob).Marked := h.of_srcs (refl s.graph) (fun k => by cases k <;> rfl) rfl
 exact (ho.analyse ha).of_srcs (refl u.graph) (fun k => by cases k <;> rfl) rfl

end Session

/-- If a message shows a new way of a method with a call of interest, what the stack shows as the reflective call has
    its mark. -/
def Message.Anchors (s : Session) : Message -> Prop
 | .reflected k dst stack => ∀ src via,
   crossings k.shows stack = .ok (frameOf via, frameOf src) -> (k.site? s src).isSome ->
   ⟨src, frameOf via, dst⟩ ∉ (k.watch s).covered -> s.graph.HasKey (k.mark src via)
 | .loaded .. => True

namespace Reflected

variable {k : Mirror} {dst : Sig} {stack : List Frame} {s t : Session}

lemma keeps_marked (ho : Reflected k dst stack s (.ok (), t)) (h : s.Marked) : t.Marked :=
 h.of_srcs ho.grows ho.srcs (by rw [ho.loads])

lemma charted_iff (ho : Reflected k dst stack s (.ok (), t)) (h : s.Charted) :
  t.Charted ↔ (Message.reflected k dst stack).Anchors s := by
 have he := h.extend ho.needs ho.grows
 have hl : ∀ c ∈ t.loads.covered, c ∈ s.loads.covered ∨ c.ChartedIn t := fun c hm => .inl (ho.loads ▸ hm)
 cases ho with
 | unexplained hf hw =>
  refine iff_of_true (he (fun l c hm => .inl ?_) hl) fun src via read hkn => ?_
  · by_cases own : l = k
    · subst own
      simpa [suspect] using hm
    · rwa [watch_alter_of_ne own] at hm
  · obtain ⟨-, rfl⟩ := Prod.mk.inj (Except.ok.inj (hf.symm.trans read))
    obtain ⟨x, hr⟩ := Option.isSome_iff_exists.mp hkn
    exact absurd (congrArg frameOf (site?_src hr)) (hw x (site?_mem hr))
 | again hf hr seen =>
  refine iff_of_true (he (fun l c hm => .inl ?_) hl) fun src via read _ hu => ?_
  · by_cases own : l = k
    · subst own
      simpa [taken] using hm
    · rwa [watch_alter_of_ne own] at hm
  · obtain ⟨rfl, rfl⟩ := crossings_unique hf read
    exact absurd seen hu
 | @charted via caller x g hf hr hu ends =>
  have hn : (Message.reflected k dst stack).Anchors s ↔ s.graph.HasKey (k.mark caller via) := by
   refine ⟨fun hs => hs caller via hf (by simp [hr]) hu, fun hk src via' read _ _ => ?_⟩
   obtain ⟨same, rfl⟩ := crossings_unique hf read
   rwa [<- frameOf_inj.mp same]
  have hc := k.chart_charting s.needs.calls caller via dst s.graph
  rw [ends] at hc
  rw [hn]
  cases hc with
  | unmarked ha =>
   refine iff_of_false (fun charted => ha ?_) ha
   obtain ⟨via', read, hh⟩ := charted.mirrors k ⟨caller, frameOf via, dst⟩
    (by simp [taken, cover])
   obtain rfl := frameOf_inj.mp read
   simpa using hh.called.hasKey
  | charted hk _ _ hh =>
   refine iff_of_true (he (fun l c hm => ?_) hl) hk
   by_cases own : l = k
   · subst own
     rw [watch_alter, watch_graph] at hm
     rcases mem_append.mp hm with old | new
     · exact .inl old
     · obtain rfl := mem_singleton.mp new
       exact .inr ⟨via, rfl, by simpa using hh⟩
   · rw [watch_alter_of_ne own, watch_graph] at hm
     exact .inl hm

end Reflected

lemma mem_of_loadSite {srcs stack x} (h : loadSite srcs stack = some x) : x ∈ srcs := by
 fun_induction loadSite srcs stack with
 | case1 callee caller rest y hf =>
  obtain rfl := Option.some.inj h
  exact mem_of_find?_eq_some hf
 | case2 callee caller rest _ ih => exact ih h
 | case3 => cases h

namespace Explained

variable {kept : String} {stack : List Frame} {s t : Session} {b : Bool}

lemma keeps_marked (ho : Explained kept stack s (b, t)) (h : s.Marked) : t.Marked :=
 h.of_srcs ho.grows (fun k => by rw [ho.mirrors]) ho.srcs

lemma keeps_charted (ho : Explained kept stack s (b, t)) (hr : s.Marked) (h : s.Charted) : t.Charted := by
 refine h.extend ho.needs ho.grows (fun k c hm => .inl (ho.mirrors k ▸ hm)) ?_
 intro c hm
 cases ho with
 | unexplained | again => exact .inl hm
 | @charted x g hf _ ha =>
  rcases mem_append.mp hm with old | new
  · exact .inl old
  · obtain rfl := mem_singleton.mp new
    obtain ⟨h, ends, -, hj⟩ := play_addLoad x.src x.dst kept s.graph
    obtain ⟨-, rfl⟩ := Prod.mk.inj (ends.symm.trans ha)
    exact .inr (hj (hr.loads x (mem_of_loadSite hf)))

end Explained

/-! ## Whole runs -/

/-- Does a step end well? -/
def Event.Completes (s : Session) (e : Event) : Prop := (play e.step s).1 = .ok ()

/-- A step is anchored if it is no message or an anchored one. -/
def Event.Anchors (s : Session) : Event -> Prop
 | .received m => m.Anchors s
 | _ => True

/-- A property of all steps of a run, each with the session in which it is taken. -/
def Session.Along (P : Session -> Event -> Prop) : Session -> List Event -> Prop
 | _, [] => True
 | s, e :: es => P s e ∧ Along P (s.after e) es

lemma Event.Completes.play_eq (ends : e.Completes s) : play e.step s = (.ok (), s.after e) := Prod.ext ends rfl

/-- A message ends well when the stack shows methods and the target needs nothing unknown. -/
lemma reflected_completes
  (hr : crossings k.shows stack = .ok (frameOf via, frameOf src)) (hg : Grantable s.needs.calls dst) :
  (received (.reflected k dst stack)).Completes s := by
 have ho := reflected_cases k dst stack s
 unfold Completes step
 generalize play (reflected k dst stack) s = ends at ho
 cases ho with
 | unexplained | again | charted => rfl
 | unread hf => cases hf.symm.trans hr
 | misread read _ _ hf =>
  obtain ⟨rfl, -⟩ := crossings_unique read hr
  cases hf
 | @uncharted via' caller _ g _ _ _ _ hf =>
  have hc := k.chart_charting s.needs.calls caller via' dst s.graph
  rw [hf] at hc
  cases hc with
  | refused _ hu => exact absurd hg hu

lemma Session.Marked.after (h : s.Marked) (ends : e.Completes s) : (s.after e).Marked := by
 have hp := ends.play_eq
 cases e with
 | began path blob => exact h.begin hp
 | analysed blob => exact h.analyse hp
 | received m =>
  cases m with
  | reflected k dst stack =>
   have ho := reflected_cases k dst stack s
   rw [show play (reflected k dst stack) s = _ from hp] at ho
   exact ho.keeps_marked h
  | loaded path blob stack =>
   obtain ⟨b, t, he, hl⟩ := play_loaded path blob stack s
   have hm := he.keeps_marked (h.counting path blob)
   rw [show play (loaded path blob stack) s = _ from hp] at hl
   split at hl
   · exact hm.analyse hl.symm
   · rw [(Prod.mk.inj hl).2]
     exact hm

/-- A step that ends well keeps all ways charted exactly if it is anchored. -/
lemma Session.Charted.after_iff (h : s.Charted) (hm : s.Marked) (ends : e.Completes s) :
  (s.after e).Charted ↔ e.Anchors s := by
 have hp := ends.play_eq
 cases e with
 | began path blob => exact iff_of_true (h.gains (begin_gains path blob s)) trivial
 | analysed blob => exact iff_of_true (h.gains (analyse_gains blob s)) trivial
 | received m =>
  cases m with
  | reflected k dst stack =>
   have ho := reflected_cases k dst stack s
   rw [show play (reflected k dst stack) s = _ from hp] at ho
   exact ho.charted_iff h
  | loaded path blob stack =>
   refine iff_of_true ?_ trivial
   obtain ⟨b, t, he, hl⟩ := play_loaded path blob stack s
   have hc := he.keeps_charted (hm.counting path blob)
    (h.gains (s.counting_gains path blob))
   rw [show play (loaded path blob stack) s = _ from hp] at hl
   split at hl
   · exact hc.gains ((analyse_gains blob).of_play hl.symm)
   · rw [(Prod.mk.inj hl).2]
     exact hc

lemma Session.Marked.along {s : Session} {es : List Event} (h : s.Marked)
  (hc : s.Along (fun s e => e.Completes s) es) : s.Along (fun s e => (s.after e).Marked) es := by
 induction es generalizing s with
 | nil => trivial
 | cons e es ih => exact ⟨h.after hc.1, ih (h.after hc.1) hc.2⟩

lemma Session.Charted.along_iff {s : Session} {es : List Event} (h : s.Charted) (hm : s.Marked)
  (hc : s.Along (fun s e => e.Completes s) es) :
  s.Along (fun s e => (s.after e).Charted) es ↔ s.Along (fun s e => e.Anchors s) es := by
 induction es generalizing s with
 | nil => exact .rfl
 | cons e es ih =>
  have hf := h.after_iff hm hc.1
  -- Once a way is not charted, both sides have failed.
  exact ⟨fun ⟨hh, rest⟩ => ⟨hf.mp hh, (ih hh (hm.after hc.1) hc.2).mp rest⟩,
   fun ⟨ha, rest⟩ => ⟨hf.mpr ha, (ih (hf.mpr ha) (hm.after hc.1) hc.2).mpr rest⟩⟩

lemma Session.charted_start : (start needs unpack).Charted := ⟨fun k c => by cases k <;> exact nofun, nofun⟩

lemma Session.marked_start : (start needs unpack).Marked := ⟨fun k x => by cases k <;> exact nofun, nofun⟩

/-- In a run whose steps all end well, the call graph has every way that was seen exactly if every step is anchored.
    The mark of every call of interest is there in any case. -/
theorem covered_charted_iff (needs : Needs) (unpack : Unpacker) (events : List Event)
  (completes : (start needs unpack).Along (fun s e => e.Completes s) events) :
  ((start needs unpack).Along (fun s e => (s.after e).Charted) events ↔
   (start needs unpack).Along (fun s e => e.Anchors s) events) ∧
  (start needs unpack).Along (fun s e => (s.after e).Marked) events := by
 have hc := charted_start needs unpack
 have hm := marked_start needs unpack
 exact ⟨hc.along_iff hm completes, hm.along completes⟩

/-- The run that starts with the specimen and goes on with an object that its method creates. -/
def Specimen.creating (via : Sig) : List Event :=
 [.began "app" blob, .received (.reflected .making created [frameOf via, frameOf method])]

lemma Specimen.creating_completes
  (hf : crossings isInstantiation [frameOf via, frameOf method] = .ok (frameOf via, frameOf method)) :
  (start ⟨[], []⟩).Along (fun s e => e.Completes s) (creating via) :=
 ⟨opened_books.1, reflected_completes (s := opened) hf (opened_grantable created), trivial⟩

open Monitor.Specimen in
/-- A reflective call that was found in code is charted when it is seen. -/
theorem covered_charted_byClass : (start ⟨[], []⟩).Along (fun s e => e.Completes s) (creating byClass) ∧
  (start ⟨[], []⟩).Along (fun s e => (s.after e).Charted) (creating byClass) := by
 have hf : crossings isInstantiation [frameOf byClass, frameOf method] =
   .ok (frameOf byClass, frameOf method) := by decide
 have hc := creating_completes hf
 obtain ⟨he, hm, -⟩ := covered_charted_iff ⟨[], []⟩ _ _ hc
 refine ⟨hc, he.mpr ⟨trivial, fun src via read _ _ => ?_, trivial⟩⟩
 obtain ⟨same, rfl⟩ := crossings_unique hf read
 rw [<- frameOf_inj.mp same]
 exact hm.mirrors .making ⟨method, byClass⟩ (site?_mem opened_first)

open Monitor.Specimen in
/-- A reflective call that was not found in code counts as seen, but is not charted. -/
theorem covered_not_charted : ¬ ∀ (needs : Needs) (unpack : Unpacker) (events : List Event),
   (start needs unpack).Along (fun s e => e.Completes s) events -> ((start needs unpack).run events).Charted := by
 intro hl
 have hf : crossings isInstantiation [frameOf byArguments, frameOf method] =
   .ok (frameOf byArguments, frameOf method) := by decide
 have hc := creating_completes hf
 have hh : (start ⟨[], []⟩).Along (fun s e => (s.after e).Charted) (creating byArguments) :=
  ⟨hl ⟨[], []⟩ _ [.began "app" blob] ⟨hc.1, trivial⟩, hl ⟨[], []⟩ _ (creating byArguments) hc, trivial⟩
 have he := (charted_start _ _).along_iff (marked_start _ _) hc
 have ha : (Message.reflected .making created [frameOf byArguments, frameOf method]).Anchors opened :=
  (he.mp hh).2.1
 obtain ⟨-, -, -, hv, -, hu⟩ := opened_books
 obtain ⟨i, x, at_i, same⟩ := ha method byArguments hf (by simp [opened_first]) (by simp [hv])
 have ho := all_eq_true.mp hu x (mem_of_getElem? at_i)
 exact bne_iff_ne.mp ho same

end DexLens.Monitor
