import DexLens.Monitor.Summary
import DexLens.Proofs.Monitor.Run

/-! # Which calls of interest count as covered

The calls that are still uncovered are among those that were found, and every covered call is explained by a way
that was seen. A message about a reflective call uncovers the first call of interest of the calling method,
whichever reflective method that one calls.
-/

namespace DexLens.Monitor

open CallGraph Effect List Mirror Site Watch Session Option Inspect

variable {l : List Site} {stack : List Frame} {s : Session} {k : Mirror}

namespace Watch

variable {σ κ : Type} {src : κ -> Sig} {w : Watch σ κ}

/-- Only what was found can be uncovered, no way is counted twice, and whatever is not uncovered any more belongs to a
    method with a way that was seen. -/
structure Accounted (src : κ -> Sig) (w : Watch σ κ) : Prop where
 within : w.uncovered.Subperm w.srcs
 counted : (w.coveredCount : Int) = w.srcs.length - w.uncovered.length ∧ w.coveredCount ≤ w.srcs.length
 uniq : w.covered.Nodup
 explained : ∀ x, w.uncovered.count x < w.srcs.count x -> ∃ c ∈ w.covered, src c = x.src

lemma Accounted.of_within (within : w.uncovered.Subperm w.srcs) (uniq : w.covered.Nodup)
  (explained : ∀ x, w.uncovered.count x < w.srcs.count x -> ∃ c ∈ w.covered, src c = x.src) :
  w.Accounted src where
 within := within
 counted := by
  have := within.length_le
  unfold coveredCount
  omega
 uniq := uniq
 explained := explained

lemma accounted_empty : (empty : Watch σ κ).Accounted src := .of_within (.refl _) nodup_nil (by simp [empty])

lemma Accounted.entry (he : Entry chosen src w v) (h : w.Accounted src) : v.Accounted src := by
 cases he with
 | found xs =>
  refine .of_within (h.within.append (.refl xs)) h.uniq fun x hf => h.explained x ?_
  simpa [foundAll, count_append] using hf
 | suspect x => exact .of_within h.within h.uniq h.explained
 | @cover c new =>
  refine .of_within h.within (nodup_append.mpr ⟨h.uniq, nodup_singleton c, ?_⟩) fun x hf => ?_
  · rintro a hm b hs rfl
    exact new (mem_singleton.mp hs ▸ hm)
  · obtain ⟨d, hm, same⟩ := h.explained x hf
    exact ⟨d, mem_append_left _ hm, same⟩
 | @taken x _ seen =>
  refine .of_within ((erase_subperm x w.uncovered).trans h.within) h.uniq fun y hf => ?_
  by_cases same : y = x
  · exact same ▸ seen
  · exact h.explained y (by rwa [taken, count_erase_of_ne same] at hf)

/-- Only the first call of interest of a method is ever taken off the list. -/
def OnlyFirst (w : Watch σ κ) : Prop := ∀ x, w.uncovered.count x = w.srcs.count x ∨ First w.srcs x

lemma OnlyFirst.entry (he : Entry First src w v) (h : w.OnlyFirst) : v.OnlyFirst := by
 intro x
 cases he with
 | found xs =>
  rcases h x with same | hf
  · exact .inl (by simp [foundAll, count_append, same])
  · exact .inr (by simp only [First, foundAll, find?_append] at hf ⊢; simp [hf])
 | suspect | cover => exact h x
 | @taken y hf =>
  by_cases same : x = y
  · exact .inr (same ▸ hf)
  · exact (h x).imp_left fun hc => by rw [taken, count_erase_of_ne same, hc]

end Watch

/-- In every run, failing steps included, the books of all three kinds are in order. -/
theorem coverage_accounted (needs : Needs) (unpack : Unpacker) (events : List Event) : let s := (start needs unpack).run events
  (∀ k : Mirror, (k.watch s).Accounted Crossing.src) ∧ s.loads.Accounted LoadCrossing.src := by
 have led := (start needs unpack).run_ledOn events
 refine ⟨fun k => entries_keep Accounted.entry (led.mirrors k) ?_, entries_keep Accounted.entry led.loads accounted_empty⟩
 cases k <;> exact accounted_empty

/-! ## The call that is taken off the list -/

/-- Down to the first frame of a kind, or to the first one that cannot be read. -/
lemma crossings_append (hh : test hop = .ok true)
  (caller : Frame) (below : List Frame) (top : ∀ f ∈ above, test f ≠ .ok true) :
  ((∀ f ∈ above, test f = .ok false) ∧ crossings test (above ++ hop :: caller :: below) = .ok (hop, caller)) ∨
  (¬ (∀ f ∈ above, test f = .ok false) ∧ ∃ e, crossings test (above ++ hop :: caller :: below) = .error e) := by
 induction above with
 | nil => exact .inl ⟨by simp, by simp [crossings, hh, bind, Except.bind, pure, Except.pure]⟩
 | cons f above ih =>
  cases read : test f with
  | error e => exact .inr ⟨by simp [read], e, by simp [crossings, read, bind, Except.bind]⟩
  | ok b =>
   obtain rfl : b = false := by
    have := top f mem_cons_self
    cases b with
    | true => exact absurd read this
    | false => rfl
   have hs : crossings test (f :: above ++ hop :: caller :: below) =
     crossings test (above ++ hop :: caller :: below) := by
    simp [crossings, read, bind, Except.bind]
   rw [hs]
   simpa [read] using ih fun g hm => top g (mem_cons_of_mem f hm)

/-- A way that is new, has its mark, and leads to a method whose permission has no level. -/
def Mirror.Refuses (k : Mirror) (s : Session) (src hop dst : Sig) : Prop :=
 ⟨src, frameOf hop, dst⟩ ∉ (k.watch s).covered ∧ s.graph.HasKey (k.mark src hop) ∧
  ¬ Build.Grantable s.needs.calls dst

/-- A message takes the first call of interest of the caller off the list, unless its way is refused. -/
lemma uncovered_after_reflected {src hop : Sig} (dst : Sig) {x : Site}
  (hf : crossings k.shows stack = .ok (frameOf hop, frameOf src)) (hs : k.site? s src = some x) :
  let t:= s.after (.received (.reflected k dst stack))
  (k.Refuses s src hop dst ∧ (k.watch t).uncovered = (k.watch s).uncovered) ∨
  (¬ k.Refuses s src hop dst ∧ (k.watch t).uncovered = (k.watch s).uncovered.erase x) := by
 have hc := k.chart_charting s.needs.calls src hop dst s.graph
 have ho := reflected_cases k dst stack s
 simp only [Session.after, Event.step]
 generalize play (reflected k dst stack) s = ends at ho
 cases ho with
 | unread hl => cases hl.symm.trans hf
 | unexplained read hn =>
  obtain ⟨-, rfl⟩ := Prod.mk.inj (Except.ok.inj (read.symm.trans hf))
  exact absurd (congrArg frameOf (site?_src hs)) (hn x (site?_mem hs))
 | again read hr seen =>
  obtain ⟨rfl, rfl⟩ := crossings_unique read hf
  obtain rfl := some.inj (hs.symm.trans hr)
  exact .inr ⟨fun refused => refused.1 seen, by simp [taken]⟩
 | misread read _ _ hl =>
  obtain ⟨rfl, rfl⟩ := crossings_unique read hf
  cases hl
 | charted read hr _ charted =>
  obtain ⟨via, rfl⟩ := crossings_unique read hf
  obtain rfl := frameOf_inj.mp via
  obtain rfl := some.inj (hs.symm.trans hr)
  refine .inr ⟨fun refused => ?_, by simp [taken, cover]⟩
  rw [charted] at hc
  cases hc with
  | unmarked unmarked => exact unmarked refused.2.1
  | charted _ hg => exact refused.2.2 hg
 | uncharted read _ hun hl =>
  obtain ⟨via, rfl⟩ := crossings_unique read hf
  obtain rfl := frameOf_inj.mp via
  rw [hl] at hc
  cases hc with
  | refused hm hu => exact .inl ⟨⟨hun, hm, hu⟩, by simp [cover]⟩

lemma after_reflected_unread {dst : Sig} {e : Fault} (hf : crossings k.shows stack = .error e) :
  s.after (.received (.reflected k dst stack)) = s := by
 simp only [Session.after, Event.step, reflected, hf]
 rw [play_error (play_ofRes _ s)]

lemma site?_of_mem {src hop : Sig} (hd : ⟨src, hop⟩ ∈ (k.watch s).srcs) :
  ∃ x, k.site? s src = some x :=
 isSome_iff_exists.mp (find?_isSome.mpr ⟨_, hd, by simp⟩)

/-- One call was taken off a list, if it was there, and no other one. -/
def Site.OnlyDropped (x : Site) (before after : List Site) : Prop :=
 ∀ y, after.count y = before.count y - if y = x then 1 else 0

namespace Site

lemma onlyDropped_self : x.OnlyDropped l l ↔ x ∉ l := by
 rw [<- count_eq_zero]
 constructor
 · intro hd
   have := hd x
   simp only [if_true] at this
   omega
 · intro ha y
   split
   · subst y
     omega
   · rfl

lemma onlyDropped_erase (x : Site) (l : List Site) : x.OnlyDropped l (l.erase x) := by
 intro y
 by_cases same : y = x
 · simp [same]
 · simp [same, count_erase_of_ne same]

lemma not_onlyDropped_erase (ho : x ≠ y) (hm : x ∈ l) : ¬ x.OnlyDropped l (l.erase y) := by
 intro hd
 have := hd x
 have := count_pos_iff.mpr hm
 rw [count_erase_of_ne ho, if_pos rfl] at *
 omega

end Site

/-- The topmost reflective call of a stack, if it is a call of interest, is the one that is taken off the list exactly
    if it was not on the list any more, or the stack can be read, it is the first call of interest of its method, and
    its way is not refused. -/
theorem reflected_uncovers_iff (needs : Needs) (unpack : Unpacker) (events : List Event) (k : Mirror)
  (src hop dst : Sig) (above below : List Frame)
  (shown : k.shows (frameOf hop) = .ok true) (top : ∀ f ∈ above, k.shows f ≠ .ok true)
  (detected : ⟨src, hop⟩ ∈ (k.watch ((start needs unpack).run events)).srcs) :
  let s := (start needs unpack).run events
  let t := s.after (.received (.reflected k dst (above ++ frameOf hop :: frameOf src :: below)))
  OnlyDropped ⟨src, hop⟩ (k.watch s).uncovered (k.watch t).uncovered ↔
   (⟨src, hop⟩ ∈ (k.watch s).uncovered ->
    (∀ f ∈ above, k.shows f = .ok false) ∧ k.site? s src = some ⟨src, hop⟩ ∧
     ¬ k.Refuses s src hop dst) := by
 intro s t
 have ho : (k.watch s).OnlyFirst := by
  refine entries_keep OnlyFirst.entry
   (((start needs unpack).run_ledOn events).mirrors k) fun x => .inl ?_
  cases k <;> rfl
 obtain ⟨x, hf⟩ := site?_of_mem detected
 rcases crossings_append shown (frameOf src) below top with ⟨hd, hfr⟩ | ⟨hu, e, hl⟩
 · rcases uncovered_after_reflected dst hfr hf with ⟨hs, same⟩ | ⟨hp, he⟩
   · change (k.watch t).uncovered = _ at same
     rw [same, onlyDropped_self]
     exact ⟨fun ha hm => absurd hm ha, fun hr hm => (hr hm).2.2 hs⟩
   · change (k.watch t).uncovered = _ at he
     rw [he]
     by_cases hc : x = ⟨src, hop⟩
     · subst hc
       exact ⟨fun _ _ => ⟨hd, hf, hp⟩, fun _ => onlyDropped_erase _ _⟩
     · -- Another call of the method comes first, so this one is still on the list.
       have hn : ¬ First (k.watch s).srcs ⟨src, hop⟩ :=
        fun hi => hc (some.inj (hf.symm.trans hi))
       have hm : (⟨src, hop⟩ : Site) ∈ (k.watch s).uncovered := by
        rw [<- count_pos_iff, (ho _).resolve_right hn, count_pos_iff]
        exact detected
       refine ⟨fun hdr => absurd hdr (not_onlyDropped_erase (Ne.symm hc) hm), fun hr => ?_⟩
       exact absurd (some.inj (hf.symm.trans (hr hm).2.1)) hc
 · have same : t = s := after_reflected_unread hl
   rw [same, onlyDropped_self]
   exact ⟨fun ha hm => absurd hm ha, fun hr hm => hu (hr hm).1⟩

lemma Specimen.opened_accepts (hop : Sig) : ¬ making.Refuses opened method hop created:=
 fun hr => hr.2.2 (opened_grantable created)

open Monitor.Specimen in
/-- The first call of a method is taken off the list when a stack shows it. -/
theorem reflected_uncovers_byClass : let stack:= [frameOf created] ++ frameOf byClass :: frameOf method :: []
  let t := opened.after (.received (.reflected .making created stack))
  making.shows (frameOf byClass) = .ok true ∧
  ⟨method, byClass⟩ ∈ (making.watch opened).srcs ∧
  OnlyDropped ⟨method, byClass⟩ (making.watch opened).uncovered
   (making.watch t).uncovered := by
 have hd := site?_mem opened_first
 have he := reflected_uncovers_iff ⟨[], []⟩ _ [.began "app" blob] .making method byClass created
  [frameOf created] [] (by decide) (by decide) hd
 refine ⟨by decide, hd, he.mpr fun _ => ?_⟩
 exact ⟨by decide, opened_first, opened_accepts byClass⟩

open Monitor.Specimen in
/-- When a method creates objects in two ways, the second way is taken for the first one. -/
theorem reflected_uncovers_another : ¬ ∀ (needs : Needs) (unpack : Unpacker) (events : List Event) (k : Mirror)
   (src hop dst : Sig) (above below : List Frame),
   let s := (start needs unpack).run events
   let t := s.after (.received (.reflected k dst (above ++ frameOf hop :: frameOf src :: below)))
   k.shows (frameOf hop) = .ok true -> (∀ f ∈ above, k.shows f ≠ .ok true) ->
   ⟨src, hop⟩ ∈ (k.watch s).srcs ->
   OnlyDropped ⟨src, hop⟩ (k.watch s).uncovered (k.watch t).uncovered := by
 intro hc
 obtain ⟨-, hs, hu, -⟩ := opened_books
 have ht : ⟨method, byConstructor⟩ ∈ (making.watch opened).srcs := by simp [hs]
 have hl : ⟨method, byConstructor⟩ ∈ (making.watch opened).uncovered := by simp [hu]
 have hd := hc ⟨[], []⟩ _ [.began "app" blob] .making method byConstructor
  created [] [] (by decide) (by simp) ht
 have hf : crossings making.shows [frameOf byConstructor, frameOf method] =
   .ok (frameOf byConstructor, frameOf method) := by decide
 rcases uncovered_after_reflected created hf opened_first with ⟨hr, -⟩ | ⟨-, he⟩
 · exact opened_accepts byConstructor hr
 · rw [nil_append, he] at hd
   exact not_onlyDropped_erase (by decide) hl hd

end DexLens.Monitor
