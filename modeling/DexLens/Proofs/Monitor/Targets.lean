import DexLens.Proofs.Analysis.Usage
import DexLens.Proofs.Monitor.Numbers

/-! # Calls of interest

Calls of interest are found by patterns for the class and the name of what is called. The class of the pattern may
stand anywhere in the class, and the name may go on. So a call is found once for every pattern that it fits.
-/

namespace DexLens.CallGraph

open Analysis Code Dex Inspect List Usage Instr Record Option View File Nat Call

variable {w : View} (c : Call) {ts : List (String × String)}

/-- The call that an instruction makes, if both of its ends can be spelled out. -/
def callAt (d : File) (s : MRef × Nat × Instr) : Option Call :=
 if s.2.2.role? = some .call then s.2.2.index?.bind fun idx => (d.spelling? (d.methodAt s.1).idx).bind fun src =>
  (d.spelling? idx).map fun dst => ⟨.ofTriple src, .ofTriple dst, s.2.1⟩
 else none

/-- The calls of methods. -/
def callsOf (d : File) (rs : List MRef) : List Call := (sites d rs).filterMap (callAt d)

/-- The calls of methods whose instructions have an opcode of one byte. -/
def narrowCallsOf (d : File) (rs : List MRef) : List Call := ((sites d rs).filter (·.2.2.op < 0xe3)).filterMap (callAt d)

/-- The class and the name that are called. -/
def Call.aim : String × String := (c.dst.cls, c.dst.name)

/-- Does the call fit a pattern for the class and one for the name? -/
def Call.fits (t : String × String) : Bool :=
 t.1.toList <:+: c.dst.cls.toList ∧ t.2.toList <+: c.dst.name.toList ∧ begins c.dst.desc

/-- The class of a method that can be spelled out is the one under which calls of it are kept. -/
lemma methodSigs_of_spelling {d : File} {idx : Nat} {m : String × String × String} (hs : d.spelling? idx = some m) :
  ∃ names, d.methodSigs idx = .ok names ∧ shown names.cls = m.1 := by
 unfold spelling? methodRef at hs
 unfold methodSigs
 cases hl : d.methodIds with
 | error e => simp [hl, bind, Except.bind] at hs
 | ok ms =>
  cases hk : atPosition? ms idx with
  | none =>
   simp only [hl, hk, bind, Except.bind, pure, pure] at hs
   exact ⟨invalidMethod, by simp [hk, bind, Except.bind, pure, Except.pure], by
    rw [<- some.inj hs]
    rfl⟩
  | some n =>
   refine ⟨n.names, by simp [hk, bind, Except.bind, pure, Except.pure], ?_⟩
   simp only [hl, hk, bind, Except.bind] at hs
   rcases hp : n.names.proto with _ | ⟨_ | p, _ | r⟩ | whole <;> rw [hp] at hs <;> cases hs
   rfl

lemma call_recordAt (d : File) (role : Instr -> Option Role) (s : MRef × Nat × Instr) :
  (recordAt d role s).bind call? = if role s.2.2 = some .call then s.2.2.index?.bind fun idx =>
   (d.methodSigs idx).toOption.map fun names => (shown names.cls, ⟨s.2.1, (d.methodAt s.1).idx, some idx⟩)
   else none := by
 unfold recordAt deed?
 cases role s.2.2 with
 | none => rfl
 | some r =>
  cases s.2.2.index? with
  | none => cases r <;> rfl
  | some idx =>
   cases r with
   | call =>
    simp only [bind_some, deedOf, if_true]
    cases d.methodSigs idx <;> rfl
   | access | create | text =>
    simp only [bind_some, deedOf]
    split <;> simp [call?]

section Surveyed

variable {recode : Bool} {blob : Bytes} {d : File} {rs : List MRef} {v : Survey}

lemma calls_perm_sites (hd : load false recode blob = .ok d) (hl : d.methods = .ok rs)
  (hs : Survey.full d = .ok v) : v.usage.calls.Perm (((sites d rs).filter (·.2.2.op < 0xe3)).filterMap
   fun s => (recordAt d role? s).bind call?) := by
 refine (kept_of_full hs hl).calls_perm.trans (.of_eq ?_)
 rw [filterMap_filterMap, filterMap_filter]
 refine filterMap_congr fun s hm => ?_
 rw [recordAt_ofOpcode hd hm]
 by_cases hn : s.2.2.op < 0xe3 <;> simp [hn]

lemma mem_paths_of_calls {u : Usage} {x : String × Path} (h : x ∈ u.calls) : x.2 ∈ u.paths := by
 obtain ⟨k, hk, hi⟩ := mem_flatMap.mp h
 obtain ⟨p, ht, rfl⟩ := mem_map.mp hi
 exact mem_paths.mpr ⟨k, hk, ht⟩

lemma found_eq (w : View) (t : String × String) : w.found t = (w.usage.calls.filter fun x =>
  t.1.toList <:+: x.1.toList ∧ t.2.toList <+: (w.dst x.2).2.1.toList ∧ begins (w.dst x.2).2.2).map (·.2) := by
 unfold found calls
 induction w.usage.pkgs with
 | nil => rfl
 | cons k ks ih =>
  rw [filter_cons, flatMap_cons, filter_append, map_append, <- ih]
  by_cases hi : t.1.toList <:+: k.name.toList <;> simp [hi, List.filter_map, Function.comp_def]

/-- A call that is kept is the one of its instruction, and is kept under the class that it calls. -/
lemma callAt_eq {s : MRef × Nat × Instr}
  (hp : ∀ x, (recordAt w.file role? s).bind call? = some x -> w.file.Spells x.2) :
  callAt w.file s = ((recordAt w.file role? s).bind call?).map (fun x => w.call x.2) ∧
   ∀ x, (recordAt w.file role? s).bind call? = some x -> x.1 = (w.dst x.2).1 := by
 rw [call_recordAt] at hp ⊢
 unfold callAt
 by_cases hc : s.2.2.role? = some .call
 · rw [if_pos hc, if_pos hc] at *
   cases hi : s.2.2.index? with
   | none => exact ⟨rfl, fun x none => by cases none⟩
   | some idx =>
    simp only [hi, bind_some] at hp ⊢
    cases hn : w.file.methodSigs idx with
    | error e =>
     have hu : w.file.spelling? idx = none := eq_none_iff_forall_ne_some.mpr fun m hl => by
      obtain ⟨names, hk, -⟩ := methodSigs_of_spelling hl
      cases hn.symm.trans hk
     exact ⟨by simp [hu, Except.toOption], fun x none => by cases none⟩
    | ok names =>
     obtain ⟨hs, ht⟩ := hp _ (by rw [hn]; rfl)
     obtain ⟨m, hs⟩ := isSome_iff_exists.mp hs
     obtain ⟨n, ht⟩ := isSome_iff_exists.mp ht
     obtain ⟨names', hk, cls⟩ := methodSigs_of_spelling ht
     cases hn.symm.trans hk
     simp only [getD_some] at hs ht
     simp [Except.toOption, call, View.src, View.dst, hs, ht, cls]
 · rw [if_neg hc, if_neg hc]
   exact ⟨rfl, fun x none => by cases none⟩

lemma found_perm (hd : load false recode blob = .ok w.file) (ht : w.file.methods = .ok rs)
  (hs : Survey.full w.file = .ok v) (used : w.usage = v.usage) (hl : w.Legible) (t : String × String) :
  ((w.found t).map w.call).Perm ((narrowCallsOf w.file rs).filter (·.fits t)) := by
 have kept := calls_perm_sites hd ht hs
 rw [<- used] at kept
 have told := fun s hm =>
  callAt_eq fun x way => hl _ (mem_paths_of_calls (kept.mem_iff.mpr (mem_filterMap.mpr ⟨s, hm, way⟩)))
 have hc : narrowCallsOf w.file rs = (((sites w.file rs).filter (·.2.2.op < 0xe3)).filterMap fun s =>
   (recordAt w.file role? s).bind call?).map fun x => w.call x.2 := by
  rw [narrowCallsOf, map_filterMap]
  exact filterMap_congr fun s hm => (told s hm).1
 rw [found_eq, List.map_map, hc, List.filter_map]
 refine ((kept.filter _).map _).trans (.of_eq (congrArg _ (filter_congr fun x hm => ?_)))
 obtain ⟨s, hh, way⟩ := mem_filterMap.mp hm
 rw [(told s hh).2 x way]
 rfl

end Surveyed

/-- A call is found once for each pattern that it fits, by each narrow instruction that makes it. -/
lemma count_flatMap {f : String × String -> List Call} {calls : List Call}
  (hf : ∀ t, (f t).Perm (calls.filter (·.fits t))) (c : Call) :
  (ts.flatMap f).count c = calls.count c * ts.countP c.fits := by
 induction ts with
 | nil => simp
 | cons t ts ih =>
  rw [flatMap_cons, count_append, ih, (hf t).count_eq, countP_cons]
  by_cases fit : c.fits t = true
  · rw [count_filter (p := (fits · t)) fit, if_pos fit]
    ring
  · have none : (calls.filter (·.fits t)).count c = 0 := count_eq_zero.mpr fun hm => fit (mem_filter.mp hm).2
    rw [none, if_neg fit, zero_add, add_zero]

def Apart (ts : List (String × String)) : Prop :=
 ∀ a ∈ ts, ts.countP (fun t => t.1.toList <:+: a.1.toList ∧ t.2.toList <+: a.2.toList) = 1

instance (ts : List (String × String)) : Decidable (Apart ts) := inferInstanceAs (Decidable (∀ a ∈ ts, _))

lemma Apart.countP_fits (ha : Apart ts) {c : Call} (h : c.aim ∈ ts) :
  ts.countP c.fits = if begins c.dst.desc then 1 else 0 := by
 cases begins : begins c.dst.desc with
 | false => exact countP_eq_zero.mpr fun t _ => by simp [fits, begins]
 | true =>
  refine (countP_congr fun t _ => ?_).trans (ha c.aim h)
  rw [fits, decide_eq_true_iff, decide_eq_true_iff, begins]
  simp [aim]

/-- If and only if no call fits a pattern without being of a target, and none of a target has a wider opcode or a
    descriptor without a beginning. -/
lemma perm_dsts_iff (hp : Apart ts) {new narrow all : List Call} (hf : narrow.Sublist all)
  (hc : ∀ c, new.count c = narrow.count c * ts.countP c.fits) :
  new.Perm (all.filter (·.aim ∈ ts)) ↔ (∀ c ∈ narrow, ∀ t ∈ ts, c.fits t -> c.aim ∈ ts) ∧
   ∀ c ∈ all, c.aim ∈ ts -> begins c.dst.desc ∧ narrow.count c = all.count c := by
 have he c : (all.filter (·.aim ∈ ts)).count c = if c.aim ∈ ts then all.count c else 0 := by
  split
  · exact count_filter (by simpa)
  · exact count_eq_zero.mpr (by simp [*])
 rw [perm_iff_count]
 simp only [hc, he]
 constructor
 · intro same
   refine ⟨fun c hm t hl fit => ?_, fun c hm ha => ?_⟩
   · by_contra ho
     have none := same c
     rw [if_neg ho, mul_eq_zero, count_eq_zero, countP_eq_zero] at none
     exact none.elim (· hm) fun hn => hn t hl fit
   · have once := same c
     have some := count_pos_iff.mpr hm
     rw [if_pos ha, hp.countP_fits ha] at once
     cases begins : begins c.dst.desc <;> simp [begins] at once ⊢ <;> omega
 · rintro ⟨only, hv⟩ c
   split
   · rename_i ha
     rw [hp.countP_fits ha]
     by_cases hm : c ∈ all
     · rw [(hv c hm ha).1, if_pos rfl, (hv c hm ha).2, mul_one]
     · rw [count_eq_zero.mpr hm, count_eq_zero.mpr fun hi => hm (hf.subset hi), zero_mul]
   · rename_i ho
     rw [mul_eq_zero, count_eq_zero, countP_eq_zero]
     by_contra! both
     obtain ⟨hm, t, hl, fit⟩ := both
     exact ho (only c hm t hl fit)

end DexLens.CallGraph

namespace DexLens.Monitor

open Analysis CallGraph Dex Effect Inspect

namespace Interest

def dsts : Interest -> List (String × String)
 | .reflection .invoke => View.invokers
 | .reflection .making => View.creators
 | .load => loaders

def calls : Interest -> Facts -> List Call
 | .reflection .invoke => Facts.invokes
 | .reflection .making => Facts.makings
 | .load => Facts.loads

lemma apart_dsts (k : Interest) : Apart k.dsts := by rcases k with (_ | _) | _ <;> decide +kernel

lemma calls_eq (k : Interest) {w : View} {facts : Facts} (hy : w.Yields facts) :
  k.calls facts = k.dsts.flatMap fun t => (w.found t).map w.call := by
 rw [<- List.map_flatMap]
 rcases k with (_ | _) | _
 exacts [hy.invokes, hy.makings, hy.loads]

end Interest

/-- Each call of interest is found once for every pattern that it fits, by each narrow instruction that makes it. So
    the calls found are those of the targets if and only if no call fits a pattern without being of a target, and none
    of a target has a wider opcode or a descriptor without a beginning. -/
theorem targets_found_iff {recode : Bool} {blob : Bytes} {d : File} (loaded : File.load false recode blob = .ok d)
  {rs : List MRef} (listed : d.methods = .ok rs) {parts : Option Components} {s t : Session}
  (ends : play (survey d parts) s = (.ok (), t)) (k : Interest) :
  ∃ new : List Call, k.srcs t = k.srcs s ++ new.map siteOf ∧
   (∀ c, new.count c = (narrowCallsOf d rs).count c * k.dsts.countP c.fits) ∧
   (new.Perm ((callsOf d rs).filter (·.aim ∈ k.dsts)) ↔
    (∀ c ∈ narrowCallsOf d rs, ∀ t ∈ k.dsts, c.fits t -> c.aim ∈ k.dsts) ∧
    ∀ c ∈ callsOf d rs, c.aim ∈ k.dsts -> View.begins c.dst.desc ∧
     (narrowCallsOf d rs).count c = (callsOf d rs).count c) := by
 obtain ⟨facts, g, hg, -, rfl⟩ := survey_ok ends
 obtain ⟨v, cs, hd, hs, hl, hy⟩ := Facts.of_survey hg
 have hc : ∀ c, (k.calls facts).count c = (narrowCallsOf d rs).count c * k.dsts.countP c.fits := by
  rw [k.calls_eq hy]
  exact count_flatMap (found_perm (w := .ofSurvey hd s.needs.calls v) loaded listed hs rfl hl)
 have hf : (narrowCallsOf d rs).Sublist (callsOf d rs) := List.filter_sublist.filterMap _
 refine ⟨k.calls facts, ?_, hc, perm_dsts_iff k.apart_dsts hf hc⟩
 rcases k with (_ | _) | _ <;> rfl

set_option maxRecDepth 100000 in
lemma sample_only_dsts : ∃ d, File.load false false (Sample.blob 44) = .ok d ∧ ∃ rs, d.methods = .ok rs ∧
  ∃ u, (play (survey d none) (.start ⟨[], []⟩)).1 = .ok u ∧
   (∀ c ∈ narrowCallsOf d rs, ∀ t ∈ View.creators, c.fits t -> c.aim ∈ View.creators) ∧
   ∀ c ∈ callsOf d rs, c.aim ∈ View.creators -> View.begins c.dst.desc ∧
    (narrowCallsOf d rs).count c = (callsOf d rs).count c := by
 decide +kernel

/-- Of the calls of the sample, the one of `newInstance` is found. -/
theorem sample_found_exactly : ∃ d rs t new, File.load false false (Sample.blob 44) = .ok d ∧ d.methods = .ok rs ∧
  play (survey d none) (.start ⟨[], []⟩) = (.ok (), t) ∧ t.makings.srcs = List.map siteOf new ∧
  new.Perm ((callsOf d rs).filter (·.aim ∈ View.creators)) := by
 obtain ⟨d, hd, rs, hl, _, ends, only⟩ := sample_only_dsts
 obtain ⟨new, hs, -, he⟩ := targets_found_iff hd hl (Prod.ext ends rfl) (.reflection .making)
 exact ⟨d, rs, _, new, hd, hl, Prod.ext ends rfl, hs, he.mpr only⟩

set_option maxRecDepth 100000 in
/-- When the name goes on after `newInstance`, the call is found all the same. -/
theorem longer_name_found : ∃ d, File.load false false ((Sample.blob 44).set 282 14) = .ok d ∧
  ∃ rs, d.methods = .ok rs ∧ ∃ u, (play (survey d none) (.start ⟨[], []⟩)).1 = .ok u ∧
   ((play (survey d none) (.start ⟨[], []⟩)).2.makings.srcs.length = 1 ∧
   (callsOf d rs).filter (·.aim ∈ View.creators) = []) := by
 decide +kernel

end DexLens.Monitor
