import DexLens.Proofs.Monitor.Charted

/-! # How stacks are read

For a loaded file the first two neighbouring frames count that are a call of interest. For a reflective call the
first frame of its kind counts, and with it the frame below. A stack without such a frame is never reported.
-/

namespace DexLens.Monitor

open CallGraph Effect List Res Watch

/-- A stack shows a call at a position: its target stands there, and its source directly below. -/
def Site.At (x : Site) (stack : List Frame) (p : Nat) : Prop :=
 stack[p]? = some (frameOf x.dst) ∧ stack[p + 1]? = some (frameOf x.src)

/-- The call of interest at the least position of a stack is found, and none exactly if none is shown. -/
theorem nearest_load_found (srcs : List Site) (stack : List Frame) : (∀ x, loadSite srcs stack = some x ↔
   x ∈ srcs ∧ ∃ p, x.At stack p ∧ ∀ q < p, ∀ y ∈ srcs, ¬ y.At stack q) ∧
  (loadSite srcs stack = none ↔ ∀ p, ∀ x ∈ srcs, ¬ x.At stack p) := by
 fun_induction loadSite srcs stack with
 | case1 callee caller rest z hf =>
  have hw : frameOf z.src = caller ∧ frameOf z.dst = callee := by simpa using find?_some hf
  obtain ⟨rfl, rfl⟩ := hw
  have hk : z ∈ srcs := mem_of_find?_eq_some hf
  have top : z.At (frameOf z.dst :: frameOf z.src :: rest) 0 := ⟨rfl, rfl⟩
  refine ⟨fun x => ⟨?_, ?_⟩, fun none => (by cases none), fun none => absurd top (none 0 z hk)⟩
  · rintro ⟨⟩
    exact ⟨hk, 0, top, fun q hq => by cases hq⟩
  · rintro ⟨-, p, ⟨ht, hs⟩, hr⟩
    cases p with
    | succ p => exact absurd top (hr 0 p.succ_pos z hk)
    | zero =>
     obtain ⟨source', target'⟩ := x
     cases z
     simp_all [frameOf_inj]
 | case2 callee caller rest hu ih =>
  have hb : ∀ {y : Site} {p}, y.At (callee :: caller :: rest) (p + 1) ↔ y.At (caller :: rest) p := by
   simp [Site.At]
  have hn : ∀ y ∈ srcs, ¬ y.At (callee :: caller :: rest) 0 := by
   rintro y hm ⟨ht, hs⟩
   have hun := find?_eq_none.mp hu y hm
   simp_all
  refine ⟨fun x => (ih.1 x).trans (and_congr_right fun hm => ?_), ih.2.trans ?_⟩
  · refine (Nat.or_exists_add_one.symm.trans ?_).symm
    simp only [hn x hm, Nat.forall_lt_succ_left, hb, false_and, false_or]
    exact exists_congr fun p => and_congr_right fun _ => and_iff_right hn
  · refine (Nat.and_forall_add_one.symm.trans ?_).symm
    simp only [hb]
    exact and_iff_right hn
 | case3 stack hh =>
  have none : ∀ p, ∀ y ∈ srcs, ¬ y.At stack p := by
   rintro p y - ⟨ht, hs⟩
   rcases stack with _ | ⟨f, _ | ⟨g, rest⟩⟩
   · cases ht
   · simp at hs
   · exact hh f g rest rfl
  refine ⟨fun x => ⟨fun found => (by cases found), ?_⟩, fun _ => none, fun _ => rfl⟩
  rintro ⟨hm, p, hth, -⟩
  exact absurd hth (none p x hm)

/-! ## Stacks of reflective calls -/

section

variable {k : Mirror} {stack : List Frame}

lemma Mirror.shows_error (hu : k.shows f = .error e) : e = .beyond := by
 cases k <;> simp only [shows, isInvocation, isInstantiation] at hu <;> grind

/-- The first frame of a kind and the one below it, if all frames above can be read. -/
lemma crossings_ok_iff :
  crossings test stack = .ok (hop, caller) ↔ ∃ above below, stack = above ++ hop :: caller :: below ∧
   (∀ f ∈ above, test f = .ok false) ∧ test hop = .ok true := by
 constructor
 · intro read
   induction stack with
   | nil => cases read
   | cons f rest ih =>
    obtain ⟨shown, ht, read⟩ := bind_ok read
    cases shown with
    | true =>
     cases rest with
     | nil => cases read
     | cons g rest =>
      cases read
      exact ⟨[], rest, rfl, by simp, ht⟩
    | false =>
     obtain ⟨above, below, rfl, hu, hh⟩ := ih read
     exact ⟨f :: above, below, rfl, forall_mem_cons.mpr ⟨ht, hu⟩, hh⟩
 · rintro ⟨above, below, rfl, hu, hh⟩
   induction above with
   | nil => exact bind_of_ok hh _
   | cons f above ih =>
    obtain ⟨hf, hl⟩ := forall_mem_cons.mp hu
    exact (bind_of_ok hf _).trans (ih hl)

lemma crossings_none (hs : ∀ f e, test f = .error e -> e = .beyond)
  (ha : ∀ f ∈ stack, test f ≠ .ok true) : crossings test stack = .error .beyond := by
 induction stack with
 | nil => rfl
 | cons f rest ih =>
  obtain ⟨hf, hl⟩ := forall_mem_cons.mp ha
  cases ht : test f with
  | error e =>
   obtain rfl := hs f e ht
   simp [crossings, ht, bind, Except.bind]
  | ok shown =>
   cases shown with
   | true => exact absurd ht hf
   | false => exact (bind_of_ok ht _).trans (ih hl)

end

/-- A message about a reflective call is reported as unexplained, with nothing else changed, exactly if the stack has
    a frame of its kind with a caller below it that has no call of interest, and all frames above can be read. A stack
    without such a frame ends in a fault and changes nothing. -/
theorem unexplained_reported_iff (k : Mirror) (dst : Sig) (stack : List Frame) (s : Session) :
  ((∃ hop, play (reflected k dst stack) s = (.ok (), k.alter (·.suspect ⟨hop, dst, stack⟩) s)) ↔
   ∃ above hop caller below, stack = above ++ hop :: caller :: below ∧
    (∀ f ∈ above, k.shows f = .ok false) ∧ k.shows hop = .ok true ∧
    ∀ x ∈ (k.watch s).srcs, frameOf x.src ≠ caller) ∧
  ((∀ f ∈ stack, k.shows f ≠ .ok true) -> play (reflected k dst stack) s = (.error .beyond, s)) := by
 constructor
 · constructor
   · rintro ⟨hop, ends⟩
     -- Only one outcome makes the list of what is suspicious longer.
     have hl : (k.watch (play (reflected k dst stack) s).2).suspicious.length = (k.watch s).suspicious.length + 1 := by
      simp [ends, suspect]
     have ho := reflected_cases k dst stack s
     generalize play (reflected k dst stack) s = result at ho hl
     cases ho with
     | unexplained read hu =>
      obtain ⟨above, below, same, hn, ht⟩ := crossings_ok_iff.mp read
      exact ⟨above, _, _, below, same, hn, ht, hu⟩
     | unread | again | misread | charted | uncharted => simp [taken, cover] at hl
   · rintro ⟨above, hop, caller, below, same, hn, ht, hu⟩
     have read : crossings k.shows stack = .ok (hop, caller) :=
      crossings_ok_iff.mpr ⟨above, below, same, hn, ht⟩
     have none : (k.watch s).srcs.find? (fun x => frameOf x.src == caller) = none :=
      find?_eq_none.mpr fun x hm => by simpa using hu x hm
     refine ⟨hop, ?_⟩
     unfold reflected
     rw [read, play_ok (play_ofRes _ s)]
     simp only
     rw [play_ok (play_get s)]
     simp only [none, play_modify]
 · intro ha
   have unread := crossings_none (fun _ _ => k.shows_error) ha
   unfold reflected
   rw [unread]
   rfl

def ordinary : List Frame := [["LA;", "m", "()V"]]

theorem ordinary_ends_in_fault : (∀ f ∈ ordinary, isInvocation f ≠ .ok true) ∧
  play (reflected .invoke ⟨"LB;", "go", "()V"⟩ ordinary) (.start ⟨[], []⟩) = (.error .beyond, .start ⟨[], []⟩) :=
 ⟨by decide, (unexplained_reported_iff .invoke _ ordinary _).2 (by decide)⟩

/-- A call by reflection that the stack does not show is not reported. -/
theorem ordinary_not_reported : (∀ f ∈ ordinary, isInvocation f ≠ .ok true) ∧
  ¬ ∃ t, play (reflected .invoke ⟨"LB;", "go", "()V"⟩ ordinary) (.start ⟨[], []⟩) = (.ok (), t) := by
 refine ⟨by decide, ?_⟩
 rintro ⟨t, ends⟩
 cases ends

end DexLens.Monitor
