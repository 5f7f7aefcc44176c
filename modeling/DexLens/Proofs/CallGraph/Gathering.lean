import DexLens.Proofs.Inspect.Views

/-! # What a file contributes

The facts of a file are drawn from the calls of its survey. They can be gathered exactly when all calls can be
spelled out.
-/

namespace DexLens.Inspect.View

open Analysis CallGraph Effect List Survey Dex

variable {w : View}

def call (w : View) (p : Path) : Call := ⟨.ofTriple (w.src p), .ofTriple (w.dst p), p.offset⟩

def members (w : View) : List MRef := w.classes.flatMap w.file.methodsOf

lemma methods_eq (w : View) : w.file.methods = .ok w.members := by
 simp [Dex.File.methods, w.defined, members, bind, Except.bind, pure, Except.pure]

def named (w : View) (r : MRef) : Sig :=
 ⟨(w.file.methodAt r).owner, (w.file.methodAt r).title, (w.file.methodAt r).sig⟩

/-- Facts that are drawn from the calls of a view. -/
structure Yields (w : View) (f : Facts) : Prop where
 called : ∀ m, m ∈ f.called ↔ ∃ p ∈ w.usage.paths, (m = (w.call p).src ∨ m = (w.call p).dst) ∧ m.cls ∈ w.titles
 calls : ∀ c, c ∈ f.calls ↔ ∃ p ∈ w.usage.paths, w.call p = c ∧ c.src.cls ∈ w.titles ∧ c.dst.cls ∈ w.titles
 invokes : f.invokes = (invokers.flatMap w.found).map w.call
 makings : f.makings = (creators.flatMap w.found).map w.call
 loads : f.loads = (loaders.flatMap w.found).map w.call
 protected' : ∀ pc ∈ f.protected', (Permission.level? pc.1).isSome ∧ ∃ p ∈ w.usage.paths, w.call p = pc.2
 threads : f.threads = ThreadBody.among w.classes (w.members.map w.named)

lemma mem_paths_of_dsts (ts : List (String × String)) : ∀ p ∈ ts.flatMap w.found, p ∈ w.usage.paths := by
 intro p hm
 obtain ⟨t, -, hi⟩ := mem_flatMap.mp hm
 exact mem_paths_of_found hi

lemma exists_path_of_found {ts : List (String × String)} (h : c ∈ (ts.flatMap w.found).map w.call) :
  ∃ p ∈ w.usage.paths, w.call p = c := by
 obtain ⟨p, hm, rfl⟩ := mem_map.mp h
 exact ⟨p, mem_paths_of_dsts ts p hm, rfl⟩

lemma answers_callOf (hs : w.file.Spells p) : w.Answers (callOf p) (w.call p) :=
 (answers_src hs).bind ((answers_dst hs).bind (.of_pure w (w.call p)))

lemma answers_calls (hl : w.Legible) {ps : List Path} (hk : ∀ p ∈ ps, p ∈ w.usage.paths) :
  w.Answers (ps.mapM callOf) (ps.map w.call) :=
 .mapM fun p hm => answers_callOf (hl p (hk p hm))

lemma answers_threadBodies (w : View) : w.Answers threadBodies (ThreadBody.among w.classes (w.members.map w.named)) :=
 (Answers.of_file w).bind ((Answers.of_look w.defined).bind
  ((Answers.of_look w.methods_eq).bind (.of_pure w _)))

lemma answers_protected (hg : w.Legible) (needs : List (String × List Need))
  (hk : ∀ need ∈ needs, Permission.known need.1 ∧ ∀ q ∈ need.2, ∃ p ∈ w.usage.paths, q = .call p) :
  ∃ pcs, w.Answers ((needs.flatMap fun (perm, ps) => ps.filterMap fun
    | .call p => some (perm, p)
    | .field _ _ _ _ => none).mapM fun (perm, p) => do return (perm, <- callOf p)) pcs ∧
   ∀ pc ∈ pcs, (Permission.level? pc.1).isSome ∧ ∃ p ∈ w.usage.paths, w.call p = pc.2 := by
 have hp : ∀ x ∈ needs.flatMap fun (perm, ps) => ps.filterMap fun
    | .call p => some (perm, p)
    | .field _ _ _ _ => none,
   Permission.known x.1 ∧ x.2 ∈ w.usage.paths := by
  intro x hm
  obtain ⟨need, hl, hi⟩ := mem_flatMap.mp hm
  obtain ⟨q, hc, hs⟩ := mem_filterMap.mp hi
  obtain ⟨p, ht, rfl⟩ := (hk need hl).2 q hc
  obtain rfl := Option.some.inj hs
  exact ⟨(hk need hl).1, ht⟩
 refine ⟨_, .mapM (g := fun x => (x.1, w.call x.2)) fun x hm => ?_, fun pc hm => ?_⟩
 · exact (answers_callOf (hg _ (hp x hm).2)).bind (.of_pure w _)
 · obtain ⟨x, hl, rfl⟩ := mem_map.mp hm
   exact ⟨(hp x hl).1, x.2, (hp x hl).2, rfl⟩

lemma gather_answers (hl : w.Legible) : ∃ f, w.Answers Facts.gather f ∧ w.Yields f := by
 obtain ⟨ms, ha, hc⟩ := answers_calledMethods hl
 have hn := answers_callsWhere hl fun cs src dst => cs.contains src && cs.contains dst
 have hs : ∀ p ∈ w.usage.paths.filter fun p =>
   w.titles.contains (w.src p).1 && w.titles.contains (w.dst p).1, p ∈ w.usage.paths :=
  fun p hm => (mem_filter.mp hm).1
 have hca := answers_calls hl hs
 have hf {ts : List (String × String)} := answers_calls hl (mem_paths_of_dsts ts)
 obtain ⟨pcs, hd, hk⟩ := answers_protected hl _ fun _ => of_mem_neededByCalls
 refine ⟨_, ha.bind (hn.bind (hca.bind ((answers_hiddenCalls hl).bind (hf.bind
  ((answers_hiddenMakings hl).bind (hf.bind ((answers_neededByCalls hl).bind (hd.bind
   ((answers_codeLoading hl).bind (hf.bind (w.answers_threadBodies.bind
    (.of_pure w _)))))))))))), fun m => ?_, fun c => ?_, rfl, rfl, rfl, hk, rfl⟩
 · rw [mem_map]
   constructor
   · rintro ⟨x, hs, rfl⟩
     obtain ⟨p, hm, one, hi⟩ := (hc x).mp hs
     exact ⟨p, hm, one.imp (congrArg _) (congrArg _), hi⟩
   · rintro ⟨p, hm, rfl | rfl, hi⟩
     · exact ⟨w.src p, (hc _).mpr ⟨p, hm, .inl rfl, hi⟩, rfl⟩
     · exact ⟨w.dst p, (hc _).mpr ⟨p, hm, .inr rfl, hi⟩, rfl⟩
 · rw [mem_map]
   constructor
   · rintro ⟨p, hs, rfl⟩
     obtain ⟨hm, hw⟩ := mem_filter.mp hs
     rw [Bool.and_eq_true, contains_iff_mem, contains_iff_mem] at hw
     exact ⟨p, hm, rfl, hw.1, hw.2⟩
   · rintro ⟨p, hm, rfl, hr, to'⟩
     refine ⟨p, mem_filter.mpr ⟨hm, ?_⟩, rfl⟩
     rw [Bool.and_eq_true, contains_iff_mem, contains_iff_mem]
     exact ⟨hr, to'⟩

lemma gather_refuses (hi : ¬ w.Legible) : w.Refuses Facts.gather := .of_first (refuses_calledMethods hi)

lemma yields_of_gather (hs : w.Shown s) (hg : play Facts.gather s = (.ok f, t)) : w.Legible ∧ w.Yields f := by
 by_cases hl : w.Legible
 · obtain ⟨f', ha, hy⟩ := gather_answers hl
   obtain ⟨t', hn, -⟩ := ha s hs
   obtain rfl : f' = f := Except.ok.inj (Prod.mk.inj (hn.symm.trans hg)).1
   exact ⟨hl, hy⟩
 · obtain ⟨e, t', hf⟩ := gather_refuses hl s hs
   rw [hf] at hg
   cases hg

/-- What a full survey of a file shows. -/
def ofSurvey {d : File} (defined : d.classDefs = .ok cs) (rules : Rules)
  (v : Survey) : View := ⟨d, rules, v.usage, cs, defined⟩

lemma exists_classDefs (made : full d = .ok v) : ∃ cs, d.classDefs = .ok cs := by
 obtain ⟨rs, hm, -⟩ := full_within made
 unfold Dex.File.methods at hm
 cases hd : d.classDefs with
 | error e => simp [hd, bind, Except.bind] at hm
 | ok cs => exact ⟨cs, rfl⟩

lemma shown_ofSurvey (hd : d.classDefs = .ok cs) (made : full d = .ok v) (needs : Needs) :
  (ofSurvey hd needs.calls v).Shown { Inspection.start d needs false with survey := some v } :=
 ⟨rfl, rfl, ⟨v, rfl, full_resolved made, rfl⟩, .inl rfl, rfl, rfl⟩

instance (w : View) : Decidable w.Legible :=
 have : DecidablePred w.file.Spells := fun _ => inferInstanceAs (Decidable (_ ∧ _))
 inferInstanceAs (Decidable (∀ p ∈ w.usage.paths, _))

instance : {x : Res α} -> {P : ∀ a, x = .ok a -> Prop} -> [∀ a h, Decidable (P a h)] -> Decidable (∃ a, ∃ h, P a h)
 | .error _, _, _ => isFalse nofun
 | .ok a, P, _ => decidable_of_iff (P a rfl) ⟨fun holds => ⟨a, rfl, holds⟩, fun ⟨_, rfl, holds⟩ => holds⟩

end DexLens.Inspect.View

namespace DexLens.CallGraph

open Inspect Effect Facts Analysis.Survey View

/-- What a file contributes, if that can be found out. -/
def Facts.of (needs : Needs) (code : Dex.File) : Res Facts :=
 (play (do
  let _ <- survey
  gather) (Inspection.start code needs false)).1

lemma Facts.of_surveyed (made : full code = .ok v) (needs : Needs) : of needs code =
   (play gather { Inspection.start code needs false with survey := some v }).1 := by
 unfold of
 rw [play_ok (play_survey_ok made needs)]

lemma Facts.of_survey (hf : of needs code = .ok facts) : ∃ v cs, ∃ hd : code.classDefs = .ok cs, full code = .ok v ∧
   (ofSurvey hd needs.calls v).Legible ∧ (ofSurvey hd needs.calls v).Yields facts := by
 cases made : full code with
 | error fault =>
  rw [of, play_error (play_survey_error made needs)] at hf
  cases hf
 | ok v =>
  obtain ⟨cs, hd⟩ := exists_classDefs made
  rw [of_surveyed made] at hf
  exact ⟨v, cs, hd, rfl, yields_of_gather (shown_ofSurvey hd made needs) (Prod.ext hf rfl)⟩

lemma Facts.yields_of (hf : of needs code = .ok facts) : ∃ w : View, w.Yields facts := by
 obtain ⟨v, cs, hd, -, -, hy⟩ := of_survey hf
 exact ⟨_, hy⟩

/-! ## A sample

A code file of one method, which calls itself, a method with a parameter that the file does not
define, and `newInstance`. The place of the list of parameters is left open: at 44 there is one.
-/

namespace Sample

open Bytes in
def blob (place : UInt8) : Bytes :=
 -- header
 ofWords [0xa786564, 0x353330, 0, 0, 0, 0, 0, 0, 488, 112, 0x12345678, 0, 0, 352, 8, 112, 5, 144, 2, 164, 0, 0, 3,
  188, 1, 212, 244, 244] ++
 -- offsets of the strings
 ofWords [244, 247, 252, 257, 276, 279, 282, 295] ++
 -- types
 ofWords [0, 1, 2, 3, 4] ++
 -- descriptors
 ofWords [4, 4, 0, 4, 4] ++ [place, 1, 0, 0] ++
 -- methods
 ofWords [1, 5, 0x10002, 7, 3, 6] ++
 -- class
 ofWords [1, 1, 1, 0, 0xffffffff, 0, 344, 0] ++
 -- strings
 ofTexts ["I", "LA;", "LB;", "Ljava/lang/Class;", "V", "m", "newInstance", "x"] ++ [0, 0] ++
 -- parameters
 ofWords [1, 0] ++
 -- code
 [1, 0, 1, 0, 1, 0, 0, 0, 0, 0, 0, 0, 10, 0, 0, 0, 110, 16, 0, 0, 0, 0, 110, 16, 1, 0, 0, 0, 110, 16, 2, 0, 0, 0, 14, 0] ++
 -- methods of the class
 [0, 0, 0, 1, 0, 1, 180, 2] ++
 -- map
 ofWords [11, 0, 1, 0, 1, 8, 112, 2, 5, 144, 3, 2, 164, 5, 3, 188, 6, 1, 212, 0x2002, 8, 244, 0x1001, 1, 300, 0x2001,
  1, 308, 0x2000, 1, 344, 0x1000, 1, 352]

/-- The file of these bytes. -/
def code (place : UInt8) : Dex.File := (Dex.File.load false false (blob place)).toOption.getD default

def method : Sig := ⟨"LA;", "m", "()V"⟩

def byClass : Sig := ⟨"Ljava/lang/Class;", "newInstance", "()V"⟩

def created : Sig := ⟨"LB;", "<init>", "()V"⟩

end Sample

end DexLens.CallGraph
