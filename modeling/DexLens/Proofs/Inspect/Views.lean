import DexLens.CallGraph.Basic
import DexLens.Proofs.Analysis.Usage
import DexLens.Proofs.Pattern.Literal

/-! # What searches find

A view is all that a search looks at. Every search has one answer on a view, or else fails on it, whatever else was
found out before.
-/

namespace DexLens.Analysis

open Dex List

/-- The calls of a file, package by package. -/
def Usage.paths (u : Usage) : List Path := u.pkgs.flatMap (·.calls)

namespace Usage

variable {u : Usage} {r : MRef} {d : File} {rs : List MRef}

lemma mem_paths : p ∈ u.paths ↔ ∃ k ∈ u.pkgs, p ∈ k.calls := mem_flatMap

def Within (d : File) (rs : List MRef) (u : Usage) : Prop := ∀ p ∈ u.paths, ∃ r ∈ rs, p.src = (d.methodAt r).idx

lemma Kept.paths_perm {number : MRef -> Nat} {log : List (Record FieldSig)} (kept : u.Kept number log) :
  u.paths.Perm (log.filterMap fun x => x.call?.map (·.2)) := by
 have perm := kept.calls_perm.map (·.2)
 rw [map_filterMap, calls, map_flatMap] at perm
 simpa only [map_map, Function.comp_def, map_id', paths] using perm

end Usage

namespace Survey

lemma full_resolved (made : full d = .ok v) : v.resolved = true := by
 obtain ⟨_, hl, -⟩ := Res.bind_ok made
 rw [(full_ok hl made).2]

lemma full_within (made : full d = .ok v) : ∃ rs, d.methods = .ok rs ∧ v.usage.Within d rs := by
 obtain ⟨rs, hl, -⟩ := Res.bind_ok made
 refine ⟨rs, hl, fun p hm => ?_⟩
 obtain ⟨x, logged, call⟩ := mem_filterMap.mp ((Usage.kept_of_full made hl).paths_perm.mem_iff.mp hm)
 obtain ⟨s, hi, recorded⟩ := mem_filterMap.mp logged
 obtain ⟨deed, -, rfl⟩ := Option.map_eq_some_iff.mp recorded
 refine ⟨s.1, Usage.site_mem hi, ?_⟩
 cases deed with
 | call => exact (congrArg Path.src (Option.some.inj call)).symm
 | create | access | text => cases call

end Survey

end DexLens.Analysis

namespace DexLens.Dex.File

open List

/-- Class, name and descriptor of a method that the file mentions, if all of them can be spelled out. -/
def spelling? (d : File) (idx : Nat) : Option (String × String × String) :=
 match d.methodRef idx with
 | .ok (c, n, p) => some (shown c, shown n, p)
 | .error _ => none

/-- Can both ends of a call be spelled out? -/
def Spells (d : File) (p : Analysis.Path) : Prop := (d.spelling? p.src).isSome ∧ (d.spelling? (p.dst.getD 0)).isSome

end DexLens.Dex.File

namespace DexLens.Inspect

open Analysis Dex Effect List Pattern

lemma play_survey_known {s : Inspection} (hs : s.survey = some v) : play survey s = (.ok v, s) := by
 unfold survey
 rw [play_ok (play_get s), hs]
 rfl

lemma play_usage_known {s : Inspection} (hs : s.survey = some v) (hr : v.resolved = true) :
  play usage s = (.ok v.usage, s) := by
 unfold usage
 rw [play_ok (play_survey_known hs), if_pos hr]
 rfl

section

variable {α : Type} {R : Inspection -> Inspection -> Prop} [Std.Refl R]

lemma keeps_of (r : Res α) : Keeps R (Query.of r) := by cases r <;> exact refl

variable [IsTrans Inspection R]

lemma look_keeps (f : File -> Res α) : Keeps R (look f) := Keeps.of_get.bind fun _ => keeps_of _

lemma names_keeps (idx : Nat) : Keeps R (names idx) := (look_keeps _).bind fun _ => .of_pure _

end

lemma play_survey_start (d : File) (needs : Needs) : play survey (.start d needs false) =
  play (Query.of (Survey.full d) >>= fun v => do
   modify fun s => { s with survey := some v }
   return v) (.start d needs false) := rfl

lemma play_survey_ok (made : Survey.full d = .ok v) (needs : Needs) :
  play survey (.start d needs false) = (.ok v, { Inspection.start d needs false with survey := some v }) := by
 rw [play_survey_start, made]
 rfl

lemma play_survey_error (hf : Survey.full d = .error fault) (needs : Needs) :
  play survey (.start d needs false) = (.error fault, .start d needs false) := by
 rw [play_survey_start, hf]
 rfl

/-- What searches look at. -/
structure View where
 file : File
 rules : Rules
 usage : Usage
 classes : List ClassDef
 defined : file.classDefs = .ok classes

namespace View

variable {p : Path} {need : String × List Need}

variable {w : View} {α β : Type} (s : String)

def titles (w : View) : List String := w.classes.map ClassDef.title

def Legible (w : View) : Prop := ∀ p ∈ w.usage.paths, w.file.Spells p

def src (w : View) (p : Path) : String × String × String := (w.file.spelling? p.src).getD default

def dst (w : View) (p : Path) : String × String × String := (w.file.spelling? (p.dst.getD 0)).getD default

/-- An inspection that shows a view. -/
structure Shown (w : View) (s : Inspection) : Prop where
 file : s.file = w.file
 rules : s.needs.calls = w.rules
 survey : ∃ v, s.survey = some v ∧ v.resolved = true ∧ v.usage = w.usage
 names : s.classNames = none ∨ s.classNames = some w.titles
 tables : s.methodsByKey = none ∧ s.methodsByIndex = none

/-- Wherever the view is shown, the question has this answer, and the view is shown still. -/
def Answers (w : View) (q : Query α) (a : α) : Prop := ∀ s, w.Shown s -> ∃ t, play q s = (.ok a, t) ∧ w.Shown t

/-- Wherever the view is shown, the question fails. -/
def Refuses (w : View) (q : Query α) : Prop := ∀ s, w.Shown s -> ∃ e t, play q s = (.error e, t)

namespace Answers

variable {f : α -> Query β} {a : α} {xs : List α}

lemma of_pure (w : View) (a : α) : w.Answers (pure a) a := fun s hs => ⟨s, rfl, hs⟩

lemma bind (hf : w.Answers q a) (hc : w.Answers (f a) b) : w.Answers (q >>= f) b := by
 intro s hs
 obtain ⟨t, hk, hs⟩ := hf s hs
 obtain ⟨u, ha, hs⟩ := hc t hs
 exact ⟨u, (play_ok hk).trans ha, hs⟩

lemma mapM (h : ∀ x ∈ xs, w.Answers (f x) (g x)) : w.Answers (xs.mapM f) (xs.map g) := by
 induction xs with
 | nil => exact of_pure w []
 | cons x xs ih =>
  obtain ⟨hf, hl⟩ := forall_mem_cons.mp h
  rw [mapM_cons]
  exact hf.bind ((ih hl).bind (of_pure w _))

lemma filterM {p keep} (h : ∀ x ∈ xs, w.Answers (p x) (keep x)) : w.Answers (xs.filterM p) (xs.filter keep) := by
 have aux : ∀ acc, w.Answers (filterAuxM p xs acc) ((xs.filter keep).reverse ++ acc) := by
  induction xs with
  | nil => exact (of_pure w)
  | cons x xs ih =>
   intro acc
   obtain ⟨hf, hl⟩ := forall_mem_cons.mp h
   refine hf.bind ?_
   cases kept : keep x with
   | true => simpa [kept] using ih hl (x :: acc)
   | false => simpa [kept] using ih hl acc
 have hw := (aux []).bind (f := (pure ·.reverse)) (of_pure w _)
 rw [append_nil, reverse_reverse] at hw
 exact hw

lemma of_outcome (h : r = .ok a) : w.Answers (Query.of r) a := by
 subst h
 exact of_pure w a

lemma of_look {f} (h : f w.file = .ok a) : w.Answers (look f) a := by
 intro s hs
 refine ⟨s, ?_, hs⟩
 change play (Query.of (f s.file)) s = _
 rw [hs.file, h]
 rfl

lemma of_file (w : View) : w.Answers Inspect.file w.file := fun s hs => ⟨s, by
 rw [<- hs.file]
 rfl, hs⟩

lemma keeps (h : w.Answers q a) : Keeps (HandsOn w.Shown) q := by
 intro s hs
 obtain ⟨t, ends, hs⟩ := h s hs
 rwa [ends]

end Answers

namespace Refuses

variable {q : Query α} {f : α -> Query β}

lemma of_first (hr : w.Refuses q) : w.Refuses (q >>= f) := by
 intro s hs
 obtain ⟨e, t, hf⟩ := hr s hs
 exact ⟨e, t, play_error hf⟩

lemma of_second (hr : w.Answers q a) (hc : w.Refuses (f a)) : w.Refuses (q >>= f) := by
 intro s hs
 obtain ⟨t, ha, hs⟩ := hr s hs
 obtain ⟨e, u, hf⟩ := hc t hs
 exact ⟨e, u, (play_ok ha).trans hf⟩

/-- When each question of a row is answered or fails, one that fails makes the row fail. -/
lemma mapM {xs : List α} (each : ∀ x ∈ xs, (∃ y, w.Answers (f x) y) ∨ w.Refuses (f x))
  (hs : ∃ x ∈ xs, w.Refuses (f x)) : w.Refuses (xs.mapM f) := by
 induction xs with
 | nil => simp at hs
 | cons x xs ih =>
  obtain ⟨hr, hl⟩ := forall_mem_cons.mp each
  rw [mapM_cons]
  rcases hr with ⟨y, ha⟩ | hf
  · obtain ⟨z, hm, hf⟩ := hs
    rcases mem_cons.mp hm with rfl | ht
    · exact of_first hf
    · exact of_second ha (of_first (ih hl ⟨z, ht, hf⟩))
  · exact of_first hf

end Refuses

lemma answers_usage (w : View) : w.Answers Inspect.usage w.usage := by
 intro s hh
 obtain ⟨v, hs, hr, used⟩ := hh.survey
 exact ⟨s, used ▸ play_usage_known hs hr, hh⟩

lemma answers_classNames (w : View) : w.Answers Inspect.classNames w.titles := by
 intro s hh
 unfold classNames
 rw [play_ok (play_get s)]
 rcases hh.names with hu | hk
 · obtain ⟨t, hl, hs⟩ := Answers.of_look w.defined s hh
   rw [hu]
   simp only
   rw [play_ok hl]
   exact ⟨{ t with classNames := some w.titles }, rfl, hs.file, hs.rules, hs.survey, .inr rfl, hs.tables⟩
 · exact ⟨s, by simp only [hk, play_pure], hh⟩

lemma answers_names (hs : w.file.spelling? idx = some m) : w.Answers (names idx) m := by
 unfold File.spelling? at hs
 split at hs
 · rename_i c n p read
   obtain rfl := Option.some.inj hs
   exact (Answers.of_look read).bind (.of_pure w _)
 · cases hs

lemma refuses_names (hu : w.file.spelling? idx = none) : w.Refuses (names idx) := by
 unfold File.spelling? at hu
 split at hu
 · cases hu
 · rename_i e hf
   refine .of_first fun s hs => ⟨e, s, ?_⟩
   change play (Query.of (s.file.methodRef idx)) s = _
   rw [hs.file, hf]
   rfl

lemma answers_src (hs : w.file.Spells p) : w.Answers (names p.src) (w.src p) := by
 obtain ⟨m, hk⟩ := Option.isSome_iff_exists.mp hs.1
 have same : w.src p = m := by rw [src, hk, Option.getD_some]
 rw [same]
 exact answers_names hk

lemma answers_dst (hs : w.file.Spells p) : w.Answers (names (p.dst.getD 0)) (w.dst p) := by
 obtain ⟨m, hk⟩ := Option.isSome_iff_exists.mp hs.2
 have same : w.dst p = m := by rw [dst, hk, Option.getD_some]
 rw [same]
 exact answers_names hk

/-! ## Searches -/

lemma answers_callsWhere (hl : w.Legible) (keep : List String -> String -> String -> Bool) :
  w.Answers (callsWhere keep) (w.usage.paths.filter fun p => keep w.titles (w.src p).1 (w.dst p).1) :=
 w.answers_usage.bind (w.answers_classNames.bind (.filterM fun p hm =>
  (answers_src (hl p hm)).bind ((answers_dst (hl p hm)).bind (.of_pure w _))))

/-- The methods that call or are called are the ends of calls that belong to classes of the file. -/
lemma answers_calledMethods (hl : w.Legible) : ∃ ms, w.Answers calledMethods ms ∧
  ∀ m, m ∈ ms ↔ ∃ p ∈ w.usage.paths, (m = w.src p ∨ m = w.dst p) ∧ m.1 ∈ w.titles := by
 have ends : w.Answers (w.usage.paths.mapM fun p => do
    let src <- names p.src
    let dst <- names (p.dst.getD 0)
    return [src, dst].filter (w.titles.contains ·.1))
   (w.usage.paths.map fun p => [w.src p, w.dst p].filter (w.titles.contains ·.1)) := by
  refine .mapM fun p hm => (answers_src (hl p hm)).bind ?_
  exact (answers_dst (hl p hm)).bind (.of_pure w _)
 refine ⟨_, w.answers_usage.bind (w.answers_classNames.bind (ends.bind (.of_pure w _))), fun m => ?_⟩
 simp only [mem_mergeSort, mem_eraseDups, mem_flatten, mem_map]
 constructor
 · rintro ⟨ms, ⟨p, hm, rfl⟩, ht⟩
   obtain ⟨one, hi⟩ := mem_filter.mp ht
   exact ⟨p, hm, by simpa using one, by simpa using hi⟩
 · rintro ⟨p, hm, one, hi⟩
   exact ⟨_, ⟨p, hm, rfl⟩, mem_filter.mpr ⟨by simpa using one, by simpa using hi⟩⟩

lemma refuses_calledMethods (hi : ¬ w.Legible) : w.Refuses calledMethods := by
 refine .of_second w.answers_usage (.of_second w.answers_classNames (.of_first (.mapM (fun p _ => ?_) ?_)))
 · cases hf : w.file.spelling? p.src with
   | none => exact .inr (.of_first (refuses_names hf))
   | some src =>
    cases hs : w.file.spelling? (p.dst.getD 0) with
    | none => exact .inr (.of_second (answers_names hf) (.of_first (refuses_names hs)))
    | some dst => exact .inl ⟨_, (answers_names hf).bind ((answers_names hs).bind (.of_pure w _))⟩
 · simp only [Legible, not_forall] at hi
   obtain ⟨p, hm, hu⟩ := hi
   refine ⟨p, hm, ?_⟩
   cases hf : w.file.spelling? p.src with
   | none => exact .of_first (refuses_names hf)
   | some src =>
    cases hs : w.file.spelling? (p.dst.getD 0) with
    | none => exact .of_second (answers_names hf) (.of_first (refuses_names hs))
    | some dst => exact absurd (by simp [File.Spells, hf, hs]) hu

/-- A class and a name that are read as patterns without special characters. -/
def Literal (t : String × String) : Prop := read t.1 = .ok (literal t.1.toList) ∧ read t.2 = .ok (literal t.2.toList)

instance : DecidablePred Literal := fun _ => inferInstanceAs (Decidable (_ ∧ _))

/-- A text whose first character is not a new line. -/
def begins : Bool := s.toList.head?.any (· ≠ '\n')

lemma matchesStart_any : matchesStart (.seq .empty (.any false)) s = begins s := by
 have he : ∃ fuel, fuelFor (.seq .empty (.any false)) s.toList.length = fuel + 2 :=
  ⟨_, (add_assoc ((s.toList.length + 2) * _) 62 2).symm⟩
 obtain ⟨fuel, he⟩ := he
 rw [matchesStart, begins, he]
 cases s.toList with
 | nil => rfl
 | cons c cs => by_cases hn : c = '\n' <;> simp [Node.run, Spot.step, hn]

/-- By a class, which may stand anywhere in a class, and by what a name starts with. -/
def found (w : View) (t : String × String) : List Path :=
 (w.usage.pkgs.filter fun k => t.1.toList <:+: k.name.toList).flatMap fun k => k.calls.filter fun p =>
  t.2.toList <+: (w.dst p).2.1.toList ∧ begins (w.dst p).2.2

lemma answers_callsTo (hg : w.Legible) (hl : Literal t) : w.Answers (callsTo t.1 t.2 ".") (w.found t) := by
 have any : read "." = .ok (.seq .empty (.any false)) := rfl
 have ht : ∀ k ∈ w.usage.pkgs, w.Answers (callsMatching t.2 "." k) (k.calls.filter fun p =>
   t.2.toList <+: (w.dst p).2.1.toList ∧ begins (w.dst p).2.2) := by
  intro k hk
  refine (Answers.of_outcome hl.2).bind ((Answers.of_outcome any).bind (.filterM fun p hm => ?_))
  rw [Bool.decide_and, Bool.decide_eq_true, <- matchesStart_any, <- matchesStart_literal]
  exact (answers_dst (hg p (Usage.mem_paths.mpr ⟨k, hk, hm⟩))).bind (.of_pure w _)
 unfold found
 simp only [<- matchesWithin_literal, flatMap_def]
 exact (Answers.of_outcome hl.1).bind (w.answers_usage.bind ((Answers.mapM fun k hm =>
  ht k (mem_filter.mp hm).1).bind (.of_pure w _)))

lemma mem_paths_of_found (h : p ∈ w.found t) : p ∈ w.usage.paths := by
 obtain ⟨k, hk, hi⟩ := mem_flatMap.mp h
 exact Usage.mem_paths.mpr ⟨k, (mem_filter.mp hk).1, (mem_filter.mp hi).1⟩

def invokers : List (String × String) := [("Ljava/lang/reflect/Method;", "invoke")]

def creators : List (String × String) :=
 [("Ljava/lang/Class;", "newInstance"), ("Ljava/lang/reflect/Constructor;", "newInstance")]

lemma literal_dsts : ∀ t ∈ invokers ++ creators ++ loaders, Literal t := by decide +kernel

lemma answers_dst_calls (hl : w.Legible) :
  ∀ t ∈ invokers ++ creators ++ loaders, w.Answers (callsTo t.1 t.2 ".") (w.found t) :=
 fun t hm => answers_callsTo hl (literal_dsts t hm)

lemma answers_hiddenCalls (hl : w.Legible) : w.Answers hiddenCalls (invokers.flatMap w.found) := by
 rw [invokers, flatMap_singleton]
 exact answers_dst_calls hl ("Ljava/lang/reflect/Method;", "invoke") (by simp [invokers])

lemma answers_hiddenMakings (hl : w.Legible) : w.Answers hiddenMakings (creators.flatMap w.found) := by
 have each : ∀ t ∈ creators, w.Answers (callsTo t.1 t.2 ".") (w.found t) :=
  fun t hm => answers_dst_calls hl t (by simp [hm])
 simp only [creators, forall_mem_cons] at each
 rw [creators, flatMap_cons, flatMap_singleton]
 exact each.1.bind (each.2.1.bind (.of_pure w _))

lemma answers_codeLoading (hl : w.Legible) : w.Answers codeLoading (loaders.flatMap w.found) :=
 (Answers.mapM fun t hm => answers_dst_calls hl t (by simp [hm])).bind (.of_pure w _)

/-- The searches for calls of interest. -/
def interest : Query (List Path × List Path × List Path) := do return (<- hiddenCalls, <- hiddenMakings, <- codeLoading)

lemma answers_interest (hl : w.Legible) :
  w.Answers interest (invokers.flatMap w.found, creators.flatMap w.found, loaders.flatMap w.found) :=
 (answers_hiddenCalls hl).bind ((answers_hiddenMakings hl).bind ((answers_codeLoading hl).bind (.of_pure w _)))

lemma callsTo_keeps (w : View) (cls name desc : String) : Keeps (HandsOn w.Shown) (callsTo cls name desc) :=
 (keeps_of _).bind fun _ => w.answers_usage.keeps.bind fun _ => (Keeps.of_mapM _ fun _ => (keeps_of _).bind fun _ =>
  (keeps_of _).bind fun _ => .of_filterM _ fun _ => (names_keeps _).bind fun _ => .of_pure _).bind .of_pure

lemma interest_keeps (w : View) : Keeps (HandsOn w.Shown) interest := by
 have calls : Keeps (HandsOn w.Shown) hiddenCalls := w.callsTo_keeps _ _ _
 have makings : Keeps (HandsOn w.Shown) hiddenMakings :=
  (w.callsTo_keeps _ _ _).bind fun _ => (w.callsTo_keeps _ _ _).bind fun _ => .of_pure _
 have loads : Keeps (HandsOn w.Shown) codeLoading :=
  (Keeps.of_mapM _ fun _ => w.callsTo_keeps _ _ _).bind fun _ => .of_pure _
 exact calls.bind fun _ => makings.bind fun _ => loads.bind fun _ => .of_pure _

section

variable (w : View) (wanted : List String) (p : Path)

lemma gather_forall {P : String -> Prop} {Q : α -> Prop}
  (h : ∀ x ∈ xs, P x.1 ∧ ∀ a ∈ x.2, Q a) : ∀ x ∈ gather xs, P x.1 ∧ ∀ a ∈ x.2, Q a := by
 refine foldlRecOn (motive := fun acc : List (String × List α) => ∀ x ∈ acc, P x.1 ∧ ∀ a ∈ x.2, Q a) xs _ (by simp) fun _ hb x hm => ?_
 exact Lookup.forall_mem_amend hb (fun y hi _ => ⟨(hb y hi).1, forall_mem_append.mpr ⟨(hb y hi).2, (h x hm).2⟩⟩) (h x hm)

/-- If the call leads out of the file to where a permission is needed. -/
def needed : List (String × List Need) :=
 if w.titles.contains (w.src p).1 && !w.titles.contains (w.dst p).1 then
  match w.rules.lookup ((w.dst p).1 ++ "-" ++ (w.dst p).2.1 ++ "-" ++ (w.dst p).2.2) with
  | some perm => if Permission.known perm then [(perm, [Need.call p])] else []
  | none => []
 else []

/-- The permission that a call needs, if it leads out of the file. -/
def permission? : Option String :=
 if w.titles.contains (w.src p).1 && !w.titles.contains (w.dst p).1 then
  w.rules.lookup ((w.dst p).1 ++ "-" ++ (w.dst p).2.1 ++ "-" ++ (w.dst p).2.2)
 else none

/-- Without permissions to look for, all that the platform knows count. -/
def counts (perm : String) : Bool := if wanted.isEmpty then Permission.known perm else wanted.contains perm

def neededFor : List (String × List Need) := ((w.permission? p).filter (counts wanted)).toList.map (·, [.call p])

lemma needed_eq : w.needed = w.neededFor [] := by
 funext p
 unfold needed neededFor permission?
 split
 · cases w.rules.lookup _ with
   | none => rfl
   | some perm => by_cases hk : Permission.known perm <;> simp [Option.filter, counts, hk]
 · rfl

end

lemma of_mem_needed (hm : need ∈ w.needed p) : Permission.known need.1 ∧ ∀ q ∈ need.2, q = .call p := by
 rw [needed_eq] at hm
 obtain ⟨perm, hk, rfl⟩ := mem_map.mp hm
 exact ⟨(Option.filter_eq_some_iff.mp (Option.mem_toList.mp hk)).2, by simp⟩

lemma answers_neededFor (hl : w.Legible) (wanted : List String) :
  w.Answers (neededByCalls wanted) (gather (w.usage.paths.map (w.neededFor wanted)).flatten) := by
 intro s hs
 unfold neededByCalls
 rw [play_ok (play_get s), hs.rules]
 refine (w.answers_usage.bind (w.answers_classNames.bind (.bind
  (.mapM fun p hm => ?_) (.of_pure w (gather (w.usage.paths.map (w.neededFor wanted)).flatten))))) s hs
 have hf := answers_src (hl p hm)
 have ht := answers_dst (hl p hm)
 rcases src : w.src p with ⟨sc, sn, sd⟩
 rcases dst : w.dst p with ⟨dc, dn, dd⟩
 rw [src] at hf
 rw [dst] at ht
 refine hf.bind (ht.bind ?_)
 by_cases ho : (w.titles.contains sc && !w.titles.contains dc) = true
 · cases rule : w.rules.lookup (dc ++ "-" ++ dn ++ "-" ++ dd) with
   | none =>
    simp only [neededFor, permission?, src, dst, ho, rule, if_true]
    exact .of_pure w _
   | some perm =>
    simp only [neededFor, permission?, src, dst, ho, rule, if_true]
    by_cases hc : counts wanted perm = true <;> simp only [Option.filter, hc] <;> simp only [counts] at hc <;>
     simp only [hc] <;> exact .of_pure w _
 · simp only [neededFor, permission?, src, dst, ho]
   exact .of_pure w _

lemma answers_neededByCalls (hl : w.Legible) : w.Answers (neededByCalls []) (gather (w.usage.paths.map w.needed).flatten) :=
 w.needed_eq ▸ answers_neededFor hl []

lemma of_mem_neededByCalls (hm : need ∈ gather (w.usage.paths.map w.needed).flatten) :
  Permission.known need.1 ∧ ∀ q ∈ need.2, ∃ p ∈ w.usage.paths, q = .call p := by
 refine gather_forall (P := (Permission.known ·)) (fun x hl => ?_) need hm
 obtain ⟨xs, one, hi⟩ := mem_flatten.mp hl
 obtain ⟨p, ht, rfl⟩ := mem_map.mp one
 exact ⟨(of_mem_needed hi).1, fun q hp => ⟨p, ht, (of_mem_needed hi).2 q hp⟩⟩

end View

end DexLens.Inspect
