import DexLens.Proofs.Source.Reaching

/-! # Definitions and uses -/

namespace DexLens.Source

open Defs List Option Chain Graph Reaching Lookup Int Block

variable (es : List ((Name × Int) × List Int))

/-! ## What names hold -/

namespace Graph

/-- Just before line `k` of block `n` the name `x` may hold what was written at the place `d`; -1 is the start. -/
inductive Holds (g : Graph) (x : Name) : Int -> Nat -> Nat -> Prop
 | initial : Holds g x (-1) g.entry 0
 | written {n k : Nat} {l : Line} (inside : n ∈ g.order) (here : (g.block n).lines[k]? = some l)
   (dst : l.code.target? = some x) : Holds g x l.loc n (k + 1)
 | kept {d : Int} {n k : Nat} {l : Line} (before : Holds g x d n k) (here : (g.block n).lines[k]? = some l)
   (other : l.code.target? ≠ some x) : Holds g x d n (k + 1)
 | passed {d : Int} {n m : Nat} (before : Holds g x d n (g.block n).lines.length) (edge : m ∈ g.net.succs n) :
   Holds g x d m 0

variable {g : Graph} {x : Name} {d : Int} {n m k : Nat}

lemma lastWrite_take_succ {ls : List Line} (here : ls[k]? = some l) :
  lastWrite x (ls.take (k + 1)) = if l.code.target? = some x then some (l.loc : Int) else lastWrite x (ls.take k) := by
 rw [take_add_one, here, toList_some, lastWrite_concat]

lemma holds_iff (hi : n ∈ g.order) (hn : k ≤ (g.block n).lines.length) : Holds g x d n k ↔
  match lastWrite x ((g.block n).lines.take k) with
  | some e => d = e
  | none => Holds g x d n 0 := by
 induction k with
 | zero => simp [lastWrite, writes]
 | succ k ih =>
  obtain ⟨l, here⟩ : ∃ l, (g.block n).lines[k]? = some l := ⟨_, getElem?_eq_getElem hn⟩
  rw [lastWrite_take_succ here]
  by_cases ht : l.code.target? = some x
  · rw [if_pos ht]
    constructor
    · rintro (_ | ⟨_, hh, _⟩ | ⟨_, hh, ho⟩)
      · rw [here] at hh
        cases hh
        rfl
      · rw [here] at hh
        cases hh
        exact absurd ht ho
    · rintro rfl
      exact .written hi here ht
  · rw [if_neg ht, <- ih (by omega)]
    constructor
    · rintro (_ | ⟨_, hh, hr⟩ | ⟨hb, _, _⟩)
      · rw [here] at hh
        cases hh
        exact absurd hr ht
      · exact hb
    · exact fun hb => .kept hb here ht

lemma holds_end (hi : n ∈ g.order) : Holds g x d n (g.block n).lines.length ↔ match lastWrite x (g.block n).lines with
  | some e => d = e
  | none => Holds g x d n 0 := by
 rw [holds_iff hi le_rfl, take_length]

section

variable (ready : g.Ready) {params : List Int} (own : d ∈ (find g params).of x) (hl : d ≠ -1)
include ready own hl

lemma Ready.of_unique (other : d ∈ (find g params).of y) : x = y := by
 obtain ⟨p, hn, hf⟩ := (mem_of.mp own).resolve_left fun ⟨_, _, _, hs⟩ => hl hs
 obtain ⟨q, hi, hs⟩ := (mem_of.mp other).resolve_left fun ⟨_, _, _, hs⟩ => hl hs
 obtain ⟨l, hb, hr, rfl⟩ := mem_writes.mp hf
 obtain ⟨l', hm, ht, same⟩ := mem_writes.mp hs
 obtain ⟨-, rfl⟩ := ready.line_unique hn hb hi hm (ofNat_inj.mp same.symm)
 exact some.inj (hr.symm.trans ht)

lemma Ready.last_iff (hi : n ∈ g.order) : d ∈ (find g params).last n ↔ lastWrite x (g.block n).lines = some d := by
 rw [mem_last hi (ready.ascending n hi)]
 refine ⟨fun ⟨y, last⟩ => ?_, fun last => ⟨x, last⟩⟩
 have hw := ((ready.ascending n hi).lastWrite_eq_some.mp last).1
 rwa [ready.of_unique own hl (mem_of.mpr (.inr ⟨n, hi, hw⟩))]

lemma Ready.killed_iff (hi : n ∈ g.order) : d ∈ (find g params).killed n ↔ lastWrite x (g.block n).lines ≠ none := by
 rw [mem_killed hi]
 refine ⟨fun ⟨y, hs, other⟩ => ?_, fun hs => ⟨x, hs, own⟩⟩
 rwa [ready.of_unique own hl other]

/-- A place of a name arrives at a block exactly if the name may hold what was written there. -/
lemma Ready.arrives_iff (hi : n ∈ g.order) : Arrives g (find g params) d n ↔ Holds g x d n 0 := by
 constructor
 · intro ha
   clear hi
   induction ha with
   | start => exact absurd rfl hl
   | @fresh d p n edge last =>
    have hb := ready.pred_mem edge
    refine .passed ((holds_end hb).mpr ?_) ((ready.linked.mirrored p n).mpr edge)
    rw [(ready.last_iff own hl hb).mp last]
   | @hop d p n edge _ hv ih =>
    have hb := ready.pred_mem edge
    refine .passed ((holds_end hb).mpr ?_) ((ready.linked.mirrored p n).mpr edge)
    rw [not_not.mp ((ready.killed_iff own hl hb).not.mp hv)]
    exact ih own hl
 · -- Along a way the last line of the block that wrote to the name decides, or else what arrived there.
   suffices hn : ∀ k, Holds g x d n k -> n ∈ g.order -> match lastWrite x ((g.block n).lines.take k) with
     | some e => d = e
     | none => Arrives g (find g params) d n from
    fun hh => by simpa [lastWrite, writes] using hn 0 hh hi
   intro k hh
   induction hh with
   | initial => exact absurd rfl hl
   | written _ here ht =>
    intro _
    rw [lastWrite_take_succ here, if_pos ht]
   | kept _ here ho ih =>
    intro hi
    rw [lastWrite_take_succ here, if_neg ho]
    exact ih own hl hi hi
   | @passed d p m hb edge ih =>
    intro hi
    have edge := (ready.linked.mirrored p m).mp edge
    have hf := ready.pred_mem edge
    have hd := ih own hl hf hf
    rw [take_length] at hd
    rw [take_zero]
    change Arrives g (find g params) d m
    cases last : lastWrite x (g.block p).lines with
    | some e =>
     rw [last] at hd
     subst hd
     exact .fresh edge ((ready.last_iff own hl hf).mpr last)
    | none =>
     rw [last] at hd
     exact .hop edge hd ((ready.killed_iff own hl hf).not.mpr (by simp [last]))

end

end Graph

/-! ## Chains -/

namespace Chain

variable {x : Name} {i d : Int}

section

variable (c : Chain) (x y : Name) (i j : Int)

lemma of?_update (f : List Int -> List Int) (x : Name) (i : Int) :
  (c.update y j f).of? x i = if (x, i) = (y, j) then some (f ((c.of? y j).getD [])) else c.of? x i := by
 rw [update, revise, of?, write c (y, j) f (f []) (x, i), <- of?]
 split
 · rw [of?]
   cases c.lookup (y, j) <;> rfl
 · rfl

def gather : Chain := es.foldl (fun c e => c.update e.1.1 e.1.2 (· ++ e.2)) []

lemma of_gather : ((gather es).of? x i).getD [] = (es.filter (·.1 = (x, i))).flatMap (·.2) := by
 have ha : ∀ c : Chain, ((es.foldl (fun c e => c.update e.1.1 e.1.2 (· ++ e.2)) c).of? x i).getD [] =
   (c.of? x i).getD [] ++ (es.filter (·.1 = (x, i))).flatMap (·.2) := by
  induction es with
  | nil => simp
  | cons e es ih =>
   intro c
   rw [foldl_cons, ih, of?_update]
   by_cases own : e.1 = (x, i)
   · simp [own]
   · have ho : ¬ (x, i) = (e.1.1, e.1.2) := fun same => own same.symm
     simp [own, ho]
 exact ha []

lemma nodup_gather : ((gather es).map (·.1)).Nodup := by
 have ha : ∀ c : Chain, (c.map (·.1)).Nodup -> ((es.foldl (fun c e => c.update e.1.1 e.1.2 (· ++ e.2)) c).map (·.1)).Nodup := by
  induction es with
  | nil => exact fun _ hn => hn
  | cons e es ih => exact fun c hn => ih _ (nodup_amend (f := fun p => (e.1, p.2 ++ e.2)) hn
    (fun _ _ => rfl) (show (e.1, [] ++ e.2).1 = e.1 from rfl))
 exact ha [] (by simp)

lemma uses_eq : usesOfDefs c = gather (c.flatMap fun e => e.2.map fun p => ((e.1.1, p), [e.1.2])) := by
 rw [usesOfDefs, gather, foldl_flatMap]
 simp only [foldl_map]

lemma count_entry (ps : List Int) (x : Name) (d i : Int) :
  (((ps.map fun p => ((y, p), [j])).filter (·.1 = (x, d))).flatMap (·.2)).count i =
   if (y, j) = (x, i) then ps.count d else 0 := by
 induction ps with
 | nil => simp
 | cons p ps ih =>
  rw [map_cons, filter_cons]
  by_cases own : y = x <;> by_cases hp : p = d <;> by_cases here : j = i <;> simp_all

end

lemma count_uses (hn : (c.map (·.1)).Nodup) (x : Name) (d i : Int) :
  (((usesOfDefs c).of? x d).getD []).count i = ((c.of? x i).getD []).count d := by
 rw [uses_eq, of_gather, of?]
 induction c with
 | nil => rfl
 | cons e c ih =>
  obtain ⟨⟨y, j⟩, ps⟩ := e
  rw [map_cons, nodup_cons] at hn
  rw [flatMap_cons, filter_append, flatMap_append, count_append, count_entry, ih hn.2]
  by_cases here : (y, j) = (x, i)
  · rw [if_pos here, <- here, eq_none_of_not_mem hn.1, lookup_cons_self]
    rfl
  · rw [if_neg here, cons_of_ne (symm here), zero_add]

end Chain

/-! ## Uses -/

section uses

variable {g : Graph} {x : Name} {d : Int} {n k : Nat} {l : Line} {params : List Int}

lemma Ascending.mem_writes_take (ha : Ascending ls) (here : ls[k]? = some l) :
  (x, d) ∈ writes (ls.take k) ↔ (x, d) ∈ writes ls ∧ d < l.loc := by
 have hs : ls = ls.take k ++ l :: ls.drop (k + 1) := by
  obtain ⟨hn, rfl⟩ := List.getElem?_eq_some_iff.mp here
  rw [getElem_cons_drop, take_append_drop]
 rw [Ascending, hs, pairwise_append, pairwise_cons] at ha
 obtain ⟨-, ⟨hf, -⟩, hb⟩ := ha
 simp only [mem_writes]
 constructor
 · rintro ⟨e, hm, ht, rfl⟩
   exact ⟨⟨e, mem_of_mem_take hm, ht, rfl⟩, ofNat_lt.mpr (hb e hm l mem_cons_self)⟩
 · rintro ⟨⟨e, hm, ht, rfl⟩, less⟩
   rw [hs] at hm
   rcases mem_append.mp hm with he | late
   · exact ⟨e, he, ht, rfl⟩
   · have less := ofNat_lt.mp less
     rcases mem_cons.mp late with rfl | late
     · omega
     · have := hf e late
       omega

lemma priorPlace_spec (ls : List Int) (loc start : Int) :
  let p := ls.foldl (fun prior v => if prior < v && v < loc then v else prior) start
  (p = start ∨ p ∈ ls ∧ p < loc) ∧ start ≤ p ∧ ∀ v ∈ ls, v < loc -> v ≤ p := by
 induction ls generalizing start with
 | nil => simp
 | cons v ls ih =>
  simp only [foldl_cons]
  by_cases hb : start < v ∧ v < loc
  · rw [if_pos (by simpa using hb)]
    obtain ⟨hf, hl, most⟩ := ih v
    refine ⟨.inr ?_, by omega, forall_mem_cons.mpr ⟨fun _ => hl, most⟩⟩
    rcases hf with same | ⟨hm, less⟩
    · rw [same]
      exact ⟨mem_cons_self, hb.2⟩
    · exact ⟨mem_cons_of_mem v hm, less⟩
  · rw [if_neg (by simpa using hb)]
    obtain ⟨hf, hl, most⟩ := ih start
    refine ⟨hf.imp_right fun ⟨hm, less⟩ => ⟨mem_cons_of_mem v hm, less⟩, hl, forall_mem_cons.mpr ⟨fun less => ?_, most⟩⟩
    have : ¬ start < v := fun more => hb ⟨more, less⟩
    omega

lemma priorPlace_eq (params : List Int) (hi : n ∈ g.order) (ha : Ascending (g.block n).lines)
  (here : (g.block n).lines[k]? = some l) : lastWrite x ((g.block n).lines.take k) =
   if 0 ≤ priorPlace ((find g params).inside n) x l.loc then
    some (priorPlace ((find g params).inside n) x l.loc) else none := by
 rw [inside_eq, if_pos hi, priorPlace]
 obtain ⟨hf, hl, most⟩ := priorPlace_spec (((ofBlock (g.block n)).lookup x).getD []) l.loc (-1)
 simp only [mem_ofBlock] at hf most
 split
 · next ht =>
    obtain ⟨hm, less⟩ := hf.resolve_left (by omega)
    have hr : Ascending ((g.block n).lines.take k) := ha.sublist (take_sublist k _)
    rw [hr.lastWrite_eq_some]
    refine ⟨(ha.mem_writes_take here).mpr ⟨hm, less⟩, fun e he => ?_⟩
    obtain ⟨hb, hs⟩ := (ha.mem_writes_take here).mp he
    exact most e hb hs
 · next hv =>
    rw [lastWrite_eq_none]
    rintro ⟨y, e⟩ he rfl
    obtain ⟨hm, less⟩ := (ha.mem_writes_take here).mp he
    have hn := most e hm less
    obtain ⟨l', -, -, rfl⟩ := mem_writes.mp hm
    omega

section

variable (g : Graph) (t : Defs) (r : Reaching)

/-- The places that a chain has for a use of a name. -/
def found (n : Nat) (l : Line) (x : Name) (places : List Int) : List Int :=
 if priorPlace (t.inside n) x l.loc ≥ 0 then [priorPlace (t.inside n) x l.loc]
 else places.filter (Reaching.entry r.arriving n).contains

lemma defsOfUses_eq : defsOfUses g t r =
  gather (g.order.flatMap fun n => (g.block n).lines.flatMap fun l => l.code.used.filterMap fun x =>
   (t.places.lookup x).map fun places => ((x, (l.loc : Int)), found t r n l x places)) := by
 rw [defsOfUses, gather, foldl_flatMap]
 simp only [foldl_flatMap, foldl_filterMap]
 congr 1
 funext c n
 congr 1
 funext c l
 congr 1
 funext c x
 cases t.places.lookup x <;> rfl

lemma nodup_definitions : ((defsOfUses g t r).map (·.1)).Nodup := by
 rw [defsOfUses_eq]
 exact nodup_gather _

end

lemma Graph.Holds.place (hh : g.Holds x d n k) : d = -1 ∨ ∃ m ∈ g.order, (x, d) ∈ writes (g.block m).lines := by
 induction hh with
 | initial => exact .inl rfl
 | written hi here ht => exact .inr ⟨_, hi, mem_writes.mpr ⟨_, mem_of_getElem? here, ht, rfl⟩⟩
 | kept _ _ _ ih | passed _ _ ih => exact ih

/-! ## Parameters

All parameters have the place -1 at the start. It no longer counts after a block that writes to any of them. -/

/-- Some way from the entry to a block writes to no parameter before it gets there. -/
inductive Graph.Undisturbed (g : Graph) (params : List Int) : Nat -> Prop
 | entry : Undisturbed g params g.entry
 | passed {n m : Nat} (before : Undisturbed g params n) (edge : m ∈ g.net.succs n)
   (untouched : ∀ p ∈ params, lastWrite (.reg p) (g.block n).lines = none) : Undisturbed g params m

lemma place_ne_start (hw : (x, d) ∈ writes ls) : d ≠ -1 := by
 obtain ⟨l, -, -, rfl⟩ := mem_writes.mp hw
 omega

lemma lastWrite_ne_start (last : lastWrite x ls = some d) : d ≠ -1 := by
 obtain ⟨e, hm, rfl⟩ := map_eq_some_iff.mp last
 exact place_ne_start (mem_filter.mp (mem_of_getLast? hm)).1

lemma start_mem_of : -1 ∈ (find g params).of x ↔ ∃ p ∈ params, x = .reg p := by
 rw [mem_of]
 constructor
 · rintro (⟨p, hm, same, -⟩ | ⟨m, -, hw⟩)
   · exact ⟨p, hm, same⟩
   · exact absurd rfl (place_ne_start hw)
 · rintro ⟨p, hm, same⟩
   exact .inl ⟨p, hm, same, rfl⟩

lemma start_not_mem_killed (hi : n ∈ g.order) : -1 ∉ (find g params).killed n ↔
  ∀ p ∈ params, lastWrite (.reg p) (g.block n).lines = none := by
 rw [mem_killed hi]
 constructor
 · intro kept p hm
   by_contra hs
   exact kept ⟨.reg p, hs, start_mem_of.mpr ⟨p, hm, rfl⟩⟩
 · rintro hu ⟨x, hs, own⟩
   obtain ⟨p, hm, rfl⟩ := start_mem_of.mp own
   exact hs (hu p hm)

lemma Graph.Ready.arrives_start_iff (ready : g.Ready) : Arrives g (find g params) (-1) n ↔ g.Undisturbed params n := by
 constructor
 · intro ha
   generalize same : (-1 : Int) = d at ha
   induction ha with
   | start => exact .entry
   | @fresh d p n edge last =>
    have hb := ready.pred_mem edge
    obtain ⟨x, last⟩ := (mem_last hb (ready.ascending p hb)).mp last
    exact absurd same.symm (lastWrite_ne_start last)
   | @hop d p n edge _ kept ih =>
    subst same
    exact .passed (ih rfl) ((ready.linked.mirrored p n).mpr edge)
     ((start_not_mem_killed (ready.pred_mem edge)).mp kept)
 · intro hu
   induction hu with
   | entry => exact .start
   | @passed p n _ edge hn ih =>
    have edge := (ready.linked.mirrored p n).mp edge
    exact .hop edge ih ((start_not_mem_killed (ready.pred_mem edge)).mpr hn)

lemma Graph.Undisturbed.holds (ready : g.Ready) (hm : p ∈ params) (hu : g.Undisturbed params n) :
  g.Holds (.reg p) (-1) n 0 := by
 induction hu with
 | entry => exact .initial
 | @passed n m _ edge hn ih =>
  have hb := ready.pred_mem ((ready.linked.mirrored n m).mp edge)
  refine .passed ((holds_end hb).mpr ?_) edge
  rw [hn p hm]
  exact ih

/-! ## Places of uses -/

lemma mem_found (hi : n ∈ g.order) (ha : Ascending (g.block n).lines) (here : (g.block n).lines[k]? = some l) :
  d ∈ found (find g params) r n l x ds ↔ match lastWrite x ((g.block n).lines.take k) with
   | some e => d = e
   | none => d ∈ ds ∧ d ∈ Reaching.entry r.arriving n := by
 rw [priorPlace_eq params hi ha here, found]
 by_cases ht : 0 ≤ priorPlace ((find g params).inside n) x l.loc <;> simp [ht]

section

variable (ready : g.Ready) (hi : n ∈ g.order) (here : (g.block n).lines[k]? = some l) (used : x ∈ l.code.used)
include ready hi here used

lemma Graph.Ready.mem_definitions (t : Defs) (r : Reaching) :
  d ∈ ((defsOfUses g t r).of? x l.loc).getD [] ↔
   ∃ places, t.places.lookup x = some places ∧ d ∈ found t r n l x places := by
 have hm : l ∈ (g.block n).lines := mem_of_getElem? here
 rw [defsOfUses_eq, of_gather]
 simp only [mem_flatMap, mem_filter, mem_filterMap, map_eq_some_iff, decide_eq_true_eq]
 constructor
 · rintro ⟨_, ⟨⟨m, hn, l', hb, y, -, places, hk, rfl⟩, same⟩, hl⟩
   simp only [Prod.mk.injEq, ofNat_inj] at same
   obtain ⟨rfl, same⟩ := same
   obtain ⟨rfl, rfl⟩ := ready.line_unique hn hb hi hm same
   exact ⟨places, hk, hl⟩
 · rintro ⟨places, hk, hl⟩
   exact ⟨_, ⟨⟨n, hi, l, hm, x, used, places, hk, rfl⟩, rfl⟩, hl⟩

/-- A use has the places of its name: the last one before it in its block, or else those that arrive there. -/
lemma Graph.Ready.mem_chains : d ∈ ((chains g params).1.of? x l.loc).getD [] ↔
  d ∈ (find g params).of x ∧ match lastWrite x ((g.block n).lines.take k) with
   | some e => d = e
   | none => Arrives g (find g params) d n := by
 have ha := ready.ascending n hi
 rw [chains, ready.mem_definitions hi here used, of]
 simp only [mem_found hi ha here]
 cases last : lastWrite x ((g.block n).lines.take k) with
 | none =>
  simp only [mem_arriving ready hi]
  cases (find g params).places.lookup x <;> simp
 | some e =>
  have hb : Ascending ((g.block n).lines.take k) := ha.sublist (take_sublist k _)
  have hw := (ha.mem_writes_take here).mp (hb.lastWrite_eq_some.mp last).1
  have own : e ∈ (find g params).of x := mem_of.mpr (.inr ⟨n, hi, hw.1⟩)
  rw [of] at own
  cases hk : (find g params).places.lookup x with
  | none => simp [hk] at own
  | some places =>
   simp only [hk, some.injEq, getD_some, exists_eq_left'] at own ⊢
   exact ⟨fun same => ⟨same ▸ own, same⟩, And.right⟩

lemma Graph.Ready.mem_chains_later (ht : d ≠ -1) : d ∈ ((chains g params).1.of? x l.loc).getD [] ↔ g.Holds x d n k := by
 have hh (own : d ∈ (find g params).of x) :
   (match lastWrite x ((g.block n).lines.take k) with
    | some e => d = e
    | none => Arrives g (find g params) d n) ↔ g.Holds x d n k := by
  rw [holds_iff hi (List.getElem?_eq_some_iff.mp here).1.le]
  split
  · rfl
  · exact ready.arrives_iff own ht hi
 rw [ready.mem_chains hi here used]
 constructor
 · rintro ⟨own, hd⟩
   exact (hh own).mp hd
 · intro hl
   have own : d ∈ (find g params).of x := mem_of.mpr (.inr (hl.place.resolve_left ht))
   exact ⟨own, (hh own).mpr hl⟩

lemma Graph.Ready.mem_chains_start : -1 ∈ ((chains g params).1.of? x l.loc).getD [] ↔
   (∃ p ∈ params, x = .reg p) ∧ lastWrite x ((g.block n).lines.take k) = none ∧ g.Undisturbed params n := by
 rw [ready.mem_chains hi here used, start_mem_of]
 cases last : lastWrite x ((g.block n).lines.take k) with
 | none => simp [ready.arrives_start_iff]
 | some e => simp [(lastWrite_ne_start last).symm]

end

/-! ## Exactness -/

/-- For every use a chain has the places whose values the name may hold there, the start for parameters only. -/
def Chain.Exact (c : Chain) (g : Graph) (params : List Int) : Prop :=
 ∀ n ∈ g.order, ∀ k l, (g.block n).lines[k]? = some l -> ∀ x ∈ l.code.used, ∀ d,
  d ∈ (c.of? x l.loc).getD [] ↔ g.Holds x d n k ∧ (d = -1 -> ∃ p ∈ params, x = .reg p)

/-- Wherever a parameter may still hold its first value, no parameter was written to on the way. -/
def Graph.ParametersKept (g : Graph) (params : List Int) : Prop :=
 ∀ n ∈ g.order, ∀ k l, (g.block n).lines[k]? = some l -> ∀ p ∈ params, .reg p ∈ l.code.used ->
  g.Holds (.reg p) (-1) n k -> g.Undisturbed params n

/-- Definitions of uses have no place too many; of those that they lack none is in the code, and none is lacking
    exactly if the parameters are kept. Uses of definitions say the same the other way round. -/
theorem Graph.Ready.chains_exact_iff (ready : g.Ready) (params : List Int) :
  ((chains g params).1.Exact g params ↔ g.ParametersKept params) ∧
  (∀ n ∈ g.order, ∀ k l, (g.block n).lines[k]? = some l -> ∀ x ∈ l.code.used,
   (∀ d, d ≠ -1 -> (d ∈ ((chains g params).1.of? x l.loc).getD [] ↔ g.Holds x d n k)) ∧
   (-1 ∈ ((chains g params).1.of? x l.loc).getD [] -> g.Holds x (-1) n k ∧ ∃ p ∈ params, x = .reg p)) ∧
  ∀ x d i, (((chains g params).2.of? x d).getD []).count i = (((chains g params).1.of? x i).getD []).count d := by
 have hs : ∀ n ∈ g.order, ∀ k l, (g.block n).lines[k]? = some l -> ∀ x ∈ l.code.used,
   -1 ∈ ((chains g params).1.of? x l.loc).getD [] -> g.Holds x (-1) n k ∧ ∃ p ∈ params, x = .reg p := by
  intro n hi k l here x used hl
  obtain ⟨⟨p, hm, rfl⟩, hn, hu⟩ := (ready.mem_chains_start hi here used).mp hl
  refine ⟨(Graph.holds_iff hi (List.getElem?_eq_some_iff.mp here).1.le).mpr ?_, p, hm, rfl⟩
  rw [hn]
  exact hu.holds ready hm
 refine ⟨⟨fun he => ?_, fun kept => ?_⟩, ?_, ?_⟩
 · intro n hi k l here p hm used hh
   have hl := (he n hi k l here (.reg p) used (-1)).mpr ⟨hh, fun _ => ⟨p, hm, rfl⟩⟩
   exact ((ready.mem_chains_start hi here used).mp hl).2.2
 · intro n hi k l here x used d
   by_cases ht : d = -1
   · subst ht
     refine ⟨fun hl => (hs n hi k l here x used hl).imp_right fun hp _ => hp, ?_⟩
     rintro ⟨hh, hp⟩
     obtain ⟨p, hm, rfl⟩ := hp rfl
     refine (ready.mem_chains_start hi here used).mpr
      ⟨⟨p, hm, rfl⟩, ?_, kept n hi k l here p hm used hh⟩
     have hd := (Graph.holds_iff hi (List.getElem?_eq_some_iff.mp here).1.le).mp hh
     cases last : lastWrite (.reg p) ((g.block n).lines.take k) with
     | none => rfl
     | some e =>
      rw [last] at hd
      exact absurd hd.symm (lastWrite_ne_start last)
   · rw [ready.mem_chains_later hi here used ht]
     simp [ht]
 · intro n hi k l here x used
   exact ⟨fun d ht => ready.mem_chains_later hi here used ht, hs n hi k l here x used⟩
 · exact count_uses (nodup_definitions g _ _)

end uses

section choice

open Statement

def clearing : Statement := assign (.this 0 "A") true (.leaf (.constant ⟨.int 3, "I", .int 3⟩))

/-- The parameter is written to on one way only, and the result has both places. -/
theorem choosing_chains_exact : (choosing []).Ready ∧ (chains (choosing []) [0, 1]).1.Exact (choosing []) [0, 1] := by
 refine ⟨choosing_ready [], ((choosing_ready []).chains_exact_iff [0, 1]).1.mpr ?_⟩
 have ho : (choosing []).order = [0, 1, 2] := by decide +kernel
 have hu : ∀ p ∈ [0, 1], lastWrite (.reg p) ((choosing []).block 0).lines = none := by decide +kernel
 have hn : ((choosing []).block 1).lines.map (·.code.used) = [[]] := by decide +kernel
 intro n hi k l here p hm used hh
 rw [ho] at hi
 simp only [mem_cons, not_mem_nil, or_false] at hi
 rcases hi with rfl | rfl | rfl
 · exact .entry
 · have same : l.code.used ∈ ((choosing []).block 1).lines.map (·.code.used) :=
    mem_map_of_mem (mem_of_getElem? here)
   rw [hn, mem_singleton] at same
   simp [same] at used
 · exact .passed .entry (by decide +kernel) hu

/-- With the other parameter written to before, what the parameter holds at the start is lost. -/
theorem clearing_loses_start : (choosing [clearing]).Ready ∧ (choosing [clearing]).Holds (.reg 1) (-1) 2 0 ∧
  (chains (choosing [clearing]) [0, 1]).1.of? (.reg 1) 3 = some [2] ∧
  ¬ (chains (choosing [clearing]) [0, 1]).1.Exact (choosing [clearing]) [0, 1] := by
 have ready := choosing_ready [clearing]
 have hh : (choosing [clearing]).Holds (.reg 1) (-1) 2 0 := by
  refine .passed (n := 0) ((holds_end (by decide +kernel)).mpr ?_) (by decide +kernel)
  rw [show lastWrite (.reg 1) ((choosing [clearing]).block 0).lines = none by decide +kernel]
  exact .initial
 have hl : (chains (choosing [clearing]) [0, 1]).1.of? (.reg 1) 3 = some [2] := by decide +kernel
 refine ⟨ready, hh, hl, fun he => ?_⟩
 have line : ((choosing [clearing]).block 2).lines[0]?.map (fun l => (l.loc, l.code.used)) =
   some (3, [.reg 1]) := by decide +kernel
 obtain ⟨l, here, same⟩ := map_eq_some_iff.mp line
 obtain ⟨hp, used⟩ := Prod.mk.inj same
 have hs := (he 2 (by decide +kernel) 0 l here (.reg 1) (by simp [used]) (-1)).mpr
  ⟨hh, fun _ => ⟨1, by simp, rfl⟩⟩
 rw [hp, Nat.cast_ofNat, hl] at hs
 simp at hs

end choice

end DexLens.Source
