import DexLens.Proofs.Source.Nets
import DexLens.Source.Chains

/-! # Definitions that reach blocks

What lines write arrives at other blocks unless something else is written on the way. The tables that the search
finds are the least solution of its equations. It ends because every change of a table uses up room.
-/

namespace DexLens.Source

open List Defs Lookup

/-! ## Tables of places -/

namespace Defs

variable {t : List (Name × List Int)} {d : Int}

lemma lookup_adding (t : List (Name × List Int)) (x : Name) (d : Int) (y : Name) :
  (adding t x d).lookup y = if y = x then some (((t.lookup x).map fun ls =>
   if ls.contains d then ls else ls ++ [d]).getD [d]) else t.lookup y := by
 exact write t x (fun ls => if ls.contains d then ls else ls ++ [d]) [d] y

lemma mem_adding : e ∈ ((adding t x d).lookup y).getD [] ↔ e ∈ (t.lookup y).getD [] ∨ (y, e) = (x, d) := by
 rw [lookup_adding]
 by_cases same : y = x
 · subst same
   cases t.lookup y <;> simp [mem_including]
 · simp [same]

lemma lookup_adding_eq_none : (adding t x d).lookup y = none ↔ t.lookup y = none ∧ y ≠ x := by
 rw [lookup_adding]
 by_cases same : y = x <;> simp [same]

lemma nodup_adding (hn : (t.map (·.1)).Nodup) (x : Name) (d : Int) : ((adding t x d).map (·.1)).Nodup := by
 exact nodup_amend (f := fun p => (x, if p.2.contains d then p.2 else p.2 ++ [d])) hn (fun _ _ => rfl)
  (show (x, [d]).1 = x from rfl)

def addingAll (t : List (Name × List Int)) (es : List (Name × Int)) : List (Name × List Int) :=
 es.foldl (fun t e => adding t e.1 e.2) t

lemma mem_addingAll : d ∈ ((addingAll t es).lookup y).getD [] ↔ d ∈ (t.lookup y).getD [] ∨ (y, d) ∈ es := by
 induction es generalizing t with
 | nil => simp [addingAll]
 | cons e es ih => rw [addingAll, foldl_cons, <- addingAll, ih, mem_adding, mem_cons, or_assoc]

lemma lookup_addingAll_eq_none : (addingAll t es).lookup y = none ↔ t.lookup y = none ∧ ∀ e ∈ es, e.1 ≠ y := by
 induction es generalizing t with
 | nil => simp [addingAll]
 | cons e es ih =>
  rw [addingAll, foldl_cons, <- addingAll, ih, lookup_adding_eq_none, forall_mem_cons, and_assoc, ne_comm]

lemma nodup_addingAll (hn : (t.map (·.1)).Nodup) (es : List (Name × Int)) : ((addingAll t es).map (·.1)).Nodup := by
 induction es generalizing t with
 | nil => exact hn
 | cons e es ih => exact ih (nodup_adding hn e.1 e.2)

end Defs

/-! ## Writing lines -/

def writes (ls : List Line) : List (Name × Int) := ls.filterMap fun l => l.code.target?.map (·, (l.loc : Int))

def lastWrite (x : Name) (ls : List Line) : Option Int := ((writes ls).filter (·.1 = x)).getLast?.map (·.2)

lemma mem_writes : (x, d) ∈ writes ls ↔ ∃ l ∈ ls, l.code.target? = some x ∧ (l.loc : Int) = d := by
 simp only [writes, mem_filterMap, Option.map_eq_some_iff, Prod.mk.injEq]
 constructor
 · rintro ⟨l, hm, _, ht, rfl, rfl⟩
   exact ⟨l, hm, ht, rfl⟩
 · rintro ⟨l, hm, ht, rfl⟩
   exact ⟨l, hm, x, ht, rfl, rfl⟩

lemma lastWrite_concat (x : Name) (ls : List Line) (l : Line) :
  lastWrite x (ls ++ [l]) = if l.code.target? = some x then some (l.loc : Int) else lastWrite x ls := by
 cases ht : l.code.target? with
 | none => simp [ht, lastWrite, writes]
 | some y => by_cases same : y = x <;> simp [ht, same, lastWrite, writes]

def Ascending (ls : List Line) : Prop := ls.Pairwise (·.loc < ·.loc)

lemma lastWrite_eq_none : lastWrite x ls = none ↔ ∀ e ∈ writes ls, e.1 ≠ x := by
 rw [lastWrite, Option.map_eq_none_iff, getLast?_eq_none_iff, filter_eq_nil_iff]
 simp

lemma Ascending.lastWrite_eq_some (ha : Ascending ls) :
  lastWrite x ls = some d ↔ (x, d) ∈ writes ls ∧ ∀ e, (x, e) ∈ writes ls -> e ≤ d := by
 induction ls using reverseRecOn with
 | nil => simp [lastWrite, writes]
 | append_singleton ls l ih =>
  obtain ⟨ha, -, less⟩ := pairwise_append.mp ha
  have before : ∀ e, (x, e) ∈ writes ls -> e < l.loc := by
   intro e hm
   obtain ⟨k, hi, -, rfl⟩ := mem_writes.mp hm
   exact Int.ofNat_lt.mpr (less k hi l mem_cons_self)
  have mem : ∀ e, (x, e) ∈ writes (ls ++ [l]) ↔ (x, e) ∈ writes ls ∨ l.code.target? = some x ∧ l.loc = e := by
   simp [mem_writes, or_and_right, exists_or]
  rw [lastWrite_concat]
  split
  · have own := mem l.loc
    grind
  · rw [ih ha]
    grind

namespace Defs

variable {g : Graph} {params : List Int} {d : Int} {n : Nat}

lemma ofBlock_eq (b : Block) : ofBlock b = addingAll [] (writes b.lines) := by
 rw [ofBlock, addingAll, writes, foldl_filterMap]
 congr 1
 funext t l
 cases l.code.target? <;> rfl

lemma mem_ofBlock : d ∈ ((ofBlock b).lookup x).getD [] ↔ (x, d) ∈ writes b.lines := by
 rw [ofBlock_eq, mem_addingAll]
 simp

lemma nodup_ofBlock (b : Block) : ((ofBlock b).map (·.1)).Nodup := by
 rw [ofBlock_eq]
 exact nodup_addingAll (by simp) _

lemma lookup_ofBlock_eq_none : (ofBlock b).lookup x = none ↔ lastWrite x b.lines = none := by
 rw [ofBlock_eq, lookup_addingAll_eq_none, lastWrite_eq_none]
 simp

lemma inside_eq (n : Nat) : (find g params).inside n = if n ∈ g.order then ofBlock (g.block n) else [] := by
 rw [inside, find]
 induction g.order with
 | nil => simp
 | cons m ms ih =>
  by_cases same : n = m
  · simp [same]
  · rw [map_cons, cons_of_ne same, ih]
    simp [same]

def written (g : Graph) : List (Name × Int) :=
 g.order.flatMap fun n => (ofBlock (g.block n)).flatMap fun e => e.2.map (e.1, ·)

lemma mem_written : (x, d) ∈ written g ↔ ∃ n ∈ g.order, (x, d) ∈ writes (g.block n).lines := by
 simp only [written, mem_flatMap]
 refine exists_congr fun n => and_congr_right fun _ => ?_
 rw [<- mem_ofBlock, mem_getD_iff (nodup_ofBlock _)]
 simp

lemma places_eq : (find g params).places = addingAll [] (params.map (Name.reg ·, (-1 : Int)) ++ written g) := by
 rw [addingAll, foldl_append, foldl_map, written, foldl_flatMap, find, foldl_map]
 simp only [foldl_flatMap, foldl_map]

lemma mem_of : d ∈ (find g params).of x ↔
  (∃ p ∈ params, x = .reg p ∧ d = -1) ∨ ∃ n ∈ g.order, (x, d) ∈ writes (g.block n).lines := by
 rw [of, places_eq, mem_addingAll, mem_append, mem_written, mem_map]
 simp [eq_comm]

lemma mem_last_iff (hi : n ∈ g.order) : d ∈ (find g params).last n ↔
  ∃ x, (x, d) ∈ writes (g.block n).lines ∧ ∀ e, (x, e) ∈ writes (g.block n).lines -> e ≤ d := by
 rw [last, inside_eq, if_pos hi]
 simp only [mem_filterMap, <- mem_ofBlock, Prod.exists, <- eq_some_iff_mem (nodup_ofBlock _), max?_eq_some_iff]
 refine exists_congr fun x => ?_
 cases (ofBlock (g.block n)).lookup x <;> simp

lemma mem_last (hi : n ∈ g.order) (ha : Ascending (g.block n).lines) :
  d ∈ (find g params).last n ↔ ∃ x, lastWrite x (g.block n).lines = some d := by
 simp only [mem_last_iff hi, ha.lastWrite_eq_some]

lemma mem_killed (hi : n ∈ g.order) :
  d ∈ (find g params).killed n ↔ ∃ x, lastWrite x (g.block n).lines ≠ none ∧ d ∈ (find g params).of x := by
 rw [killed, inside_eq, if_pos hi]
 simp only [mem_flatMap, Prod.exists]
 refine exists_congr fun x => ?_
 rw [exists_and_right, ne_eq, <- lookup_ofBlock_eq_none, <- ne_eq, Option.ne_none_iff_exists']
 simp only [eq_some_iff_mem (nodup_ofBlock (g.block n))]

end Defs

/-! ## The least solution -/

namespace Graph

/-- A graph whose blocks are all reached from its entry, in order. -/
structure Entered (g : Graph) : Prop where
 linked : g.net.Linked
 entry : g.entry ∈ g.net.nodes
 reached : ∀ n ∈ g.net.nodes, g.net.Leads g.entry n
 ordered : g.order = g.net.rpo g.entry

variable {g : Graph} {n m : Nat}

lemma Entered.mem_order (he : g.Entered) (node : n ∈ g.net.nodes) : n ∈ g.order := by
 rw [he.ordered]
 exact Net.mem_order_of_leads (he.reached n node)

lemma Entered.succ_mem (he : g.Entered) (edge : m ∈ g.net.succs n) : m ∈ g.order :=
 he.mem_order (he.linked.inside n m edge).2

lemma Entered.pred_mem (he : g.Entered) (edge : m ∈ g.net.preds n) : m ∈ g.order :=
 he.mem_order (he.linked.inside m n ((he.linked.mirrored m n).mpr edge)).1

end Graph

/-- The places that arrive at blocks: -1 at the entry, and what leaves the blocks before. -/
inductive Arrives (g : Graph) (t : Defs) : Int -> Nat -> Prop
 | start : Arrives g t (-1) g.entry
 | fresh {d p n} (edge : p ∈ g.net.preds n) (last : d ∈ t.last p) : Arrives g t d n
 | hop {d p n} (edge : p ∈ g.net.preds n) (before : Arrives g t d p) (kept : d ∉ t.killed p) :
   Arrives g t d n

/-- The places that leave blocks. -/
def Leaves (g : Graph) (t : Defs) (d : Int) (n : Nat) : Prop := d ∈ t.last n ∨ Arrives g t d n ∧ d ∉ t.killed n

lemma arrives_of_leaves (edge : p ∈ g.net.preds n) (hl : Leaves g t d p) : Arrives g t d n:=
 hl.elim (.fresh edge) fun hb => .hop edge hb.1 hb.2

namespace Reaching

variable {g : Graph} {t : Defs} {a arriving : List Int} {d : Int} {n : Nat}

lemma entry_put (t : List (Nat × List Int)) (n : Nat) (v : List Int) (m : Nat) :
  entry (put t n v) m = if m = n then v else entry t m := by
 rw [entry, put, revise, write t n (fun _ => v) v m]
 split
 · cases t.lookup n <;> rfl
 · rfl

lemma same_iff : same a b = true ↔ ∀ d, d ∈ a ↔ d ∈ b := by
 simp only [same, Bool.and_eq_true, all_eq_true, contains_iff_mem]
 exact ⟨fun both d => ⟨both.1 d, both.2 d⟩, fun iff => ⟨fun d => (iff d).mp, fun d => (iff d).mpr⟩⟩

lemma mem_inflow : d ∈ inflow g r n ↔ n = g.entry ∧ d = -1 ∨ ∃ p ∈ g.net.preds n, d ∈ entry r.leaving p := by
 have row : ∀ (ps : List Nat) start,
   d ∈ ps.foldl (· ++ entry r.leaving ·) start ↔ d ∈ start ∨ ∃ p ∈ ps, d ∈ entry r.leaving p := by
  intro ps
  induction ps with
  | nil => simp
  | cons p ps ih =>
   intro start
   rw [foldl_cons, ih, mem_append, exists_mem_cons_iff, or_assoc]
 rw [inflow, mem_eraseDups, row]
 split <;> simp [*]

lemma mem_outflow : d ∈ outflow t n arriving ↔ d ∈ t.last n ∨ d ∈ arriving ∧ d ∉ t.killed n := by
 simp [outflow, mem_eraseDups, or_comm]

lemma nodup_inflow : (inflow g r n).Nodup := nodup_eraseDups _

lemma nodup_outflow : (outflow t n arriving).Nodup := nodup_eraseDups _

lemma enqueue_eq (g : Graph) (queue : List Nat) (n : Nat) :
  ∃ new, enqueue g queue n = queue ++ new ∧ new.Nodup ∧ (∀ m ∈ new, m ∈ g.net.succs n ∧ m ∉ queue) ∧
   ∀ m ∈ g.net.succs n, m ∈ queue ++ new := by
 rw [enqueue]
 induction g.net.succs n generalizing queue with
 | nil => exact ⟨[], by simp⟩
 | cons s ss ih =>
  rw [foldl_cons]
  by_cases hk : s ∈ queue
  · rw [if_pos (by simpa using hk)]
    obtain ⟨new, eq, hn, hi, all⟩ := ih queue
    exact ⟨new, eq, hn, fun m hm => (hi m hm).imp_left (mem_cons_of_mem s),
     forall_mem_cons.mpr ⟨mem_append_left _ hk, all⟩⟩
  · rw [if_neg (by simpa using hk)]
    obtain ⟨new, eq, hn, hi, all⟩ := ih (queue ++ [s])
    rw [append_assoc] at eq all
    refine ⟨s :: new, eq, ?_, ?_, forall_mem_cons.mpr ⟨by simp, all⟩⟩
    · exact nodup_cons.mpr ⟨fun ha => (hi s ha).2 (by simp), hn⟩
    · refine forall_mem_cons.mpr ⟨⟨mem_cons_self, hk⟩, fun m hm => ?_⟩
      exact (hi m hm).imp (mem_cons_of_mem s) fun hf he => hf (mem_append_left _ he)

/-- Bring an entry of a table up to date. -/
def refresh (g : Graph) (n : Nat) (v : List Int) (queue : List Nat) (table : List (Nat × List Int)) :
  List Nat × List (Nat × List Int) :=
 if same v (entry table n) then (queue, table) else (enqueue g queue n, put table n v)

/-- One round of the search: the first block that waits is brought up to date. -/
def round (g : Graph) (t : Defs) : List Nat × Reaching -> List Nat × Reaching
 | ([], r) => ([], r)
 | (n :: queue, r) =>
  let first := refresh g n (inflow g r n) queue r.arriving
  let second := refresh g n (outflow t n (entry first.2 n)) first.1 r.leaving
  (second.1, ⟨first.2, second.2⟩)

lemma settle_cons (one : refresh g n (inflow g r n) queue r.arriving = first)
  (two : refresh g n (outflow t n (entry first.2 n)) first.1 r.leaving = second) (fuel : Nat) :
  settle g t (fuel + 1) (n :: queue) r = settle g t fuel second.1 ⟨first.2, second.2⟩ := by
 subst two one
 simp only [settle, refresh]
 split <;> split <;> rfl

section refresh

variable {v : List Int} {queue : List Nat} {table : List (Nat × List Int)} {new : List Nat × List (Nat × List Int)}
 (ends : refresh g n v queue table = new)

include ends

lemma mem_refresh : d ∈ entry new.2 m ↔ if m = n then d ∈ v else d ∈ entry table m := by
 rw [<- ends, refresh]
 split
 · next ha =>
    split
    · next here => exact here ▸ (same_iff.mp ha d).symm
    · rfl
 · rw [entry_put]
   split <;> rfl

lemma refresh_queue : queue ⊆ new.1 ∧ (∀ m ∈ new.1, m ∈ queue ∨ m ∈ g.net.succs n) ∧
  (new.2 = table ∨ ∀ m ∈ g.net.succs n, m ∈ new.1) := by
 rw [<- ends, refresh]
 split
 · exact ⟨.refl _, fun _ => .inl, .inl rfl⟩
 · obtain ⟨more, eq, -, hi, all⟩ := enqueue_eq g queue n
   simp only [eq]
   exact ⟨subset_append_left _ _, fun m hm => (mem_append.mp hm).imp_right fun hm => (hi m hm).1, .inr all⟩

lemma nodup_refresh (hb : ∀ m, (entry table m).Nodup) (hf : v.Nodup) (m : Nat) : (entry new.2 m).Nodup := by
 rw [<- ends, refresh]
 split
 · exact hb m
 · simp only [entry_put]
   split
   · exact hf
   · exact hb m

/-- How many places the entries of a table may still take in. -/
def room (g : Graph) (bound : Nat) (table : List (Nat × List Int)) : Nat :=
 (g.order.map fun n => bound - (entry table n).length).sum

lemma refresh_room {all : List Int} (hl : ∀ m ∈ g.net.succs n, m ∈ g.order) (hi : n ∈ g.order)
  (hb : (entry table n).Nodup)
  (hf : v.Nodup) (hg : ∀ d ∈ entry table n, d ∈ v) (hk : ∀ d ∈ v, d ∈ all) :
  new.1.length + g.order.length * room g all.length new.2 ≤
   queue.length + g.order.length * room g all.length table := by
 rw [<- ends, refresh]
 split
 · exact le_rfl
 · next hc =>
    obtain ⟨new, eq, hn, next, -⟩ := enqueue_eq g queue n
    have few : new.length ≤ g.order.length := (hn.subperm fun m hm => hl m (next m hm).1).length_le
    have fits : v.length ≤ all.length := (hf.subperm hk).length_le
    have more : (entry table n).length < v.length := by
     refine lt_of_le_of_ne (hb.subperm hg).length_le fun same => hc (same_iff.mpr fun d => ?_)
     exact ((hb.subperm hg).perm_of_length_le same.ge).mem_iff.symm
    have less : room g all.length (put table n v) < room g all.length table := by
     refine sum_lt_sum _ _ (fun m _ => ?_) ⟨n, hi, ?_⟩
     · rw [entry_put]
       split
       · next here => subst here; omega
       · exact le_rfl
     · rw [entry_put, if_pos rfl]
       omega
    simp only [eq, length_append]
    have := Nat.mul_le_mul_left g.order.length (Nat.succ_le_of_lt less)
    rw [Nat.mul_succ] at this
    omega

end refresh

/-- The tables hold nothing that does not arrive or leave, they only grow, and for every block that does not wait they
    are up to date. -/
structure Settling (g : Graph) (t : Defs) (queue : List Nat) (r : Reaching) : Prop where
 arriving : ∀ n, ∀ d ∈ entry r.arriving n, Arrives g t d n
 leaving : ∀ n, ∀ d ∈ entry r.leaving n, Leaves g t d n
 nodupIn : ∀ n, (entry r.arriving n).Nodup
 nodupOut : ∀ n, (entry r.leaving n).Nodup
 grownIn : ∀ n, ∀ d ∈ entry r.arriving n, d ∈ inflow g r n
 grownOut : ∀ n, ∀ d ∈ entry r.leaving n, d ∈ outflow t n (entry r.arriving n)
 currentIn : ∀ n ∈ g.order, n ∉ queue -> ∀ d ∈ inflow g r n, d ∈ entry r.arriving n
 currentOut : ∀ n ∈ g.order, n ∉ queue -> ∀ d ∈ outflow t n (entry r.arriving n), d ∈ entry r.leaving n

lemma inflow_mono (more : ∀ p, ∀ d ∈ entry r.leaving p, d ∈ entry s.leaving p) (here : d ∈ inflow g r n) :
  d ∈ inflow g s n := by
 rw [mem_inflow] at here ⊢
 exact here.imp_right fun ⟨p, edge, hm⟩ => ⟨p, edge, more p d hm⟩

lemma outflow_mono (more : ∀ d ∈ a, d ∈ b) (here : d ∈ outflow t n a) : d ∈ outflow t n b := by
 rw [mem_outflow] at here ⊢
 exact here.imp_right fun ⟨hm, kept⟩ => ⟨more d hm, kept⟩

namespace Settling

lemma start (g : Graph) (t : Defs) : Settling g t g.order default where
 arriving _ _ hm := nomatch hm
 leaving _ _ hm := nomatch hm
 nodupIn _ := nodup_nil
 nodupOut _ := nodup_nil
 grownIn _ _ hm := nomatch hm
 grownOut _ _ hm := nomatch hm
 currentIn _ hi hf := absurd hi hf
 currentOut _ hi hf := absurd hi hf

variable {queue : List Nat}

lemma sound_inflow (s : Settling g t queue r) (here : d ∈ inflow g r n) : Arrives g t d n := by
 rcases mem_inflow.mp here with ⟨rfl, rfl⟩ | ⟨p, edge, hm⟩
 · exact .start
 · exact arrives_of_leaves edge (s.leaving p d hm)

lemma next (hl : g.net.Linked) (s : Settling g t (n :: queue) r)
  (one : refresh g n (inflow g r n) queue r.arriving = first)
  (two : refresh g n (outflow t n (entry first.2 n)) first.1 r.leaving = second) :
  Settling g t second.1 ⟨first.2, second.2⟩ := by
 have ha : ∀ m d, d ∈ entry first.2 m ↔ if m = n then d ∈ inflow g r n else d ∈ entry r.arriving m :=
  fun m d => mem_refresh one
 have hv : ∀ m d, d ∈ entry second.2 m ↔ if m = n then d ∈ outflow t n (entry first.2 n) else d ∈ entry r.leaving m :=
  fun m d => mem_refresh two
 have hn : ∀ m, ∀ d ∈ entry r.arriving m, d ∈ entry first.2 m := by
  intro m d hm
  rw [ha]
  split
  · next here => exact here ▸ s.grownIn m d hm
  · exact hm
 have hmo : ∀ m, ∀ d ∈ entry r.leaving m, d ∈ entry second.2 m := by
  intro m d hm
  rw [hv]
  split
  · next here => exact here ▸ outflow_mono (hn m) (s.grownOut m d hm)
  · exact hm
 obtain ⟨ht, -⟩ := refresh_queue one
 obtain ⟨hs, -, hc⟩ := refresh_queue two
 have hw : ∀ m, m ∉ second.1 -> m ≠ n -> m ∉ n :: queue := fun m hf ho hk =>
  hf (hs (ht ((mem_cons.mp hk).resolve_left ho)))
 have hu : ∀ m, m ∉ second.1 -> ∀ d ∈ inflow g ⟨first.2, second.2⟩ m, d ∈ inflow g r m := by
  intro m hf d hm
  rcases mem_inflow.mp hm with hy | ⟨p, edge, hle⟩
  · exact mem_inflow.mpr (.inl hy)
  · refine mem_inflow.mpr (.inr ⟨p, edge, ?_⟩)
    rcases hc with hst | all
    · rwa [hst] at hle
    · rw [hv] at hle
      split at hle
      · next here => exact absurd (all m ((hl.mirrored n m).mpr (here ▸ edge))) hf
      · exact hle
 refine ⟨fun m d hm => ?_, fun m d hm => ?_, fun m => ?_, fun m => ?_, fun m d hm => ?_,
  fun m d hm => ?_, fun m hi hf d hm => ?_, fun m hi hf d hm => ?_⟩
 · rw [ha] at hm
   split at hm
   · next here => exact here ▸ s.sound_inflow hm
   · exact s.arriving m d hm
 · rw [hv] at hm
   split at hm
   · next here =>
      subst here
      refine (mem_outflow.mp hm).imp_right fun kept => ⟨s.sound_inflow ?_, kept.2⟩
      simpa [ha] using kept.1
   · exact s.leaving m d hm
 · exact nodup_refresh one s.nodupIn nodup_inflow m
 · exact nodup_refresh two s.nodupOut nodup_outflow m
 · refine inflow_mono hmo ?_
   rw [ha] at hm
   split at hm
   · next here => exact here ▸ hm
   · exact s.grownIn m d hm
 · rw [hv] at hm
   split at hm
   · next here => exact here ▸ hm
   · exact outflow_mono (hn m) (s.grownOut m d hm)
 · have hm := hu m hf d hm
   rw [ha]
   split
   · next here => exact here ▸ hm
   · next here => exact s.currentIn m hi (hw m hf here) d hm
 · rw [hv]
   split
   · next here => exact here ▸ hm
   · next here =>
      refine s.currentOut m hi (hw m hf here) d (outflow_mono (fun d hm => ?_) hm)
      simpa [ha, here] using hm

lemma run (all : List Int) (hg : g.Entered) (hn : ∀ n d, Arrives g t d n -> d ∈ all)
  (hk : ∀ n d, Leaves g t d n -> d ∈ all) (s : Settling g t queue r) (hi : ∀ n ∈ queue, n ∈ g.order)
  (he : queue.length + g.order.length * (room g all.length r.arriving + room g all.length r.leaving) ≤ fuel) :
  Settling g t [] (settle g t fuel queue r) ∧ ∃ k, (round g t)^[k] (queue, r) = ([], settle g t fuel queue r) := by
 induction fuel generalizing queue r with
 | zero =>
  have hno : queue = [] := length_eq_zero_iff.mp (by omega)
  subst hno
  exact ⟨s, 0, rfl⟩
 | succ fuel ih =>
  cases queue with
  | nil => exact ⟨s, 0, rfl⟩
  | cons n queue =>
   obtain ⟨here, hi⟩ := forall_mem_cons.mp hi
   generalize one : refresh g n (inflow g r n) queue r.arriving = first
   generalize two : refresh g n (outflow t n (entry first.2 n)) first.1 r.leaving = second
   have ha := s.next hg.linked one two
   rw [settle_cons one two]
   have step : round g t (n :: queue, r) = (second.1, ⟨first.2, second.2⟩) := by
    subst two one
    rfl
   refine (ih ha ?_ ?_).imp_right fun ⟨k, same⟩ => ⟨k + 1, by rwa [Function.iterate_succ_apply, step]⟩
   · obtain ⟨-, hf, -⟩ := refresh_queue one
     obtain ⟨-, hs, -⟩ := refresh_queue two
     intro m hm
     rcases hs m hm with hm | edge
     · exact (hf m hm).elim (hi m) hg.succ_mem
     · exact hg.succ_mem edge
   · have more : ∀ d ∈ entry r.leaving n, d ∈ outflow t n (entry first.2 n) := fun d hm =>
      outflow_mono (fun d hl => (mem_refresh one).mpr (by simpa using s.grownIn n d hl)) (s.grownOut n d hm)
     have hw : ∀ d ∈ outflow t n (entry first.2 n), d ∈ all := fun d hm =>
      hk n d (ha.leaving n d ((mem_refresh two).mpr (by simpa using hm)))
     have hro := refresh_room one (fun _ => hg.succ_mem) here (s.nodupIn n) nodup_inflow (s.grownIn n)
      fun d hm => hn n d (s.sound_inflow hm)
     have ht := refresh_room two (fun _ => hg.succ_mem) here (s.nodupOut n) nodup_outflow more hw
     simp only [length_cons, mul_add] at he ⊢
     omega

end Settling

end Reaching

/-! ## Graphs with their lines numbered -/

namespace Graph

/-- A graph whose lines are numbered as well. -/
structure Ready (g : Graph) : Prop extends Entered g where
 ascending : ∀ n ∈ g.order, Ascending (g.block n).lines
 apart : ∀ n ∈ g.order, ∀ m ∈ g.order, ∀ l ∈ (g.block n).lines, ∀ k ∈ (g.block m).lines, l.loc = k.loc -> n = m

variable {g : Graph} {n m : Nat}

lemma Ready.line_unique (hr : g.Ready) (hi : n ∈ g.order) (hf : l ∈ (g.block n).lines)
  (hn : m ∈ g.order) (hs : k ∈ (g.block m).lines) (same : l.loc = k.loc) : n = m ∧ l = k := by
 obtain rfl := hr.apart n hi m hn l hf k hs same
 have ha : ((g.block n).lines.map Line.loc).Nodup := (pairwise_map.mpr (hr.ascending n hi)).imp ne_of_lt
 exact ⟨rfl, inj_on_of_nodup_map ha hf hs same⟩

/-! ## Numbering -/

section

variable (s : Graph × Nat) (g : Graph) (n : Nat) (f : Block -> Block) (m : Nat) (next : Nat) (ls : List Line)

lemma block_alter : (g.alter n f).block m = if n = m ∧ n < g.blocks.size then f (g.block m) else g.block m := by
 simp only [alter, block, Array.getD_eq_getD_getElem?, Array.getElem?_modify]
 by_cases same : n = m
 · subst same
   by_cases hb : n < g.blocks.size
   · simp [hb]
   · simp [hb]
 · simp [same]

lemma lines_alter (hn : (f default).lines = []) (m : Nat) :
  ((g.alter n f).block m).lines = if n = m then (f (g.block m)).lines else (g.block m).lines := by
 rw [block_alter]
 by_cases same : n = m
 · subst same
   by_cases hb : n < g.blocks.size
   · rw [if_pos ⟨rfl, hb⟩, if_pos rfl]
   · have hm : g.block n = default := by
      simp [block, Array.getD_eq_getD_getElem?, Array.getElem?_eq_none (Nat.le_of_not_lt hb)]
     rw [if_neg (hb ·.2), if_pos rfl, hm, hn]
     rfl
 · rw [if_neg (same ·.1), if_neg same]

def numbered : List Line := ls.zipIdx.map fun p => { p.1 with loc := next + p.2 }

lemma loc_of_numbered {next ls l} (hm : l ∈ numbered next ls) : next ≤ l.loc ∧ l.loc < next + ls.length := by
 obtain ⟨⟨k, i⟩, hi, rfl⟩ := mem_map.mp hm
 have := snd_lt_of_mem_zipIdx hi
 simp only at this ⊢
 omega

lemma ascending_numbered : Ascending (numbered next ls) := by
 rw [numbered, Ascending, pairwise_map]
 have hp : (ls.zipIdx.map (·.2)).Pairwise (· < ·) := by
  rw [zipIdx_map_snd]
  exact pairwise_lt_range'
 exact (pairwise_map.mp hp).imp (Nat.add_lt_add_left · next)

/-- Number one block and go on after it. -/
def numberBlock : Graph × Nat :=
 (s.1.alter n fun b =>
  { b with lines := numbered s.2 b.lines, range := some (s.2, s.2 + (s.1.block n).lines.length) },
  s.2 + (s.1.block n).lines.length)

lemma lines_numberBlock : ((numberBlock s n).1.block m).lines =
   if n = m then numbered s.2 (s.1.block m).lines else (s.1.block m).lines :=
 lines_alter s.1 n _ rfl m

/-- The blocks have the lines of `g`, numbered one after the other from a place on. -/
def Laid (g h : Graph) : Nat -> List Nat -> Prop
 | _, [] => True
 | k, n :: ns => (h.block n).lines = numbered k (g.block n).lines ∧
  (n < h.blocks.size -> (h.block n).range = some (k, k + (g.block n).lines.length)) ∧
   Laid g h (k + (g.block n).lines.length) ns

lemma laid_numberBlocks {g ns} (hn : ns.Nodup) (s : Graph × Nat)
  (same : ∀ n ∈ ns, (s.1.block n).lines = (g.block n).lines) : let t := (ns.foldl numberBlock s).1
  Laid g t s.2 ns ∧ (∀ n ∉ ns, t.block n = s.1.block n) ∧ t.blocks.size = s.1.blocks.size := by
 induction ns generalizing s with
 | nil => exact ⟨trivial, fun _ _ => rfl, rfl⟩
 | cons n ns ih =>
  obtain ⟨here, hn⟩ := nodup_cons.mp hn
  obtain ⟨own, same⟩ := forall_mem_cons.mp same
  have other (m : Nat) (hm : m ≠ n) : (numberBlock s n).1.block m = s.1.block m := by
   rw [numberBlock, block_alter, if_neg fun both => hm both.1.symm]
  obtain ⟨laid, rest, size⟩ := ih hn (numberBlock s n) fun m hm => by
   rw [other m (ne_of_mem_of_not_mem hm here), same m hm]
  have size := size.trans Array.size_modify
  refine ⟨⟨?_, fun hk => ?_, own ▸ laid⟩, fun m hm => ?_, size⟩
  · rw [foldl_cons, rest n here, lines_numberBlock, if_pos rfl, own]
  · rw [foldl_cons, rest n here, numberBlock, block_alter, if_pos ⟨rfl, size ▸ hk⟩, <- own]
  · obtain ⟨ne, hm⟩ := not_or.mp (mt mem_cons.mpr hm)
    exact (rest m hm).trans (other m ne)

lemma places_numbered (k : Nat) (ls : List Line) : (numbered k ls).map Line.loc = range' k ls.length := by
 have : Line.loc ∘ (fun p : Line × Nat => { p.1 with loc := k + p.2 }) = (k + ·) ∘ Prod.snd := rfl
 rw [numbered, map_map, this, <- map_map, zipIdx_map_snd, map_add_range', Nat.add_zero]

/-- The places of the lines of a block. -/
def places (g : Graph) (n : Nat) : List Nat := (g.block n).lines.map Line.loc

namespace Laid

variable {g h : Graph} {n m : Nat}

lemma flatMap_places (laid : Laid g h k ns) :
  ns.flatMap h.places = range' k (ns.flatMap fun n => (g.block n).lines).length := by
 induction ns generalizing k with
 | nil => rfl
 | cons n ns ih =>
  obtain ⟨lines, -, rest⟩ := laid
  rw [flatMap_cons, flatMap_cons, length_append, ih rest, places, lines, places_numbered, range'_append_1]

lemma each (laid : Laid g h k ns) (hm : n ∈ ns) : ∃ a, k ≤ a ∧ (h.block n).lines = numbered a (g.block n).lines ∧
  (n < h.blocks.size -> (h.block n).range = some (a, a + (g.block n).lines.length)) := by
 induction ns generalizing k with
 | nil => cases hm
 | cons m ns ih =>
  obtain ⟨lines, range, rest⟩ := laid
  rcases mem_cons.mp hm with rfl | hm
  · exact ⟨k, le_rfl, lines, range⟩
  · obtain ⟨a, ha, each⟩ := ih rest hm
    exact ⟨a, by omega, each⟩

lemma apart (laid : Laid g h k ns) (hn : n ∈ ns) (hm : m ∈ ns) (hl : l ∈ (h.block n).lines) (hj : j ∈ (h.block m).lines)
  (same : l.loc = j.loc) : n = m := by
 by_contra other
 have once : (ns.flatMap h.places).Nodup := laid.flatMap_places ▸ nodup_range'
 have : Std.Symm (Function.onFun List.Disjoint h.places) := ⟨fun _ _ => List.Disjoint.symm⟩
 exact (nodup_flatMap.mp once).2.forall hn hm other (mem_map_of_mem hl) (mem_map.mpr ⟨j, hj, same.symm⟩)

end Laid

def frame : Net × Nat × List Nat := (g.net, g.entry, g.order)

lemma foldl_frame {k : β -> α -> β} {f : β -> γ} (hs : ∀ b a, f (k b a) = f b) (as : List α) (b : β) :
  f (as.foldl k b) = f b := by
 induction as generalizing b with
 | nil => rfl
 | cons a as ih => exact (ih _).trans (hs b a)

lemma frame_reorder : g.reorder.frame = (g.net, g.entry, g.net.rpo g.entry) := by
 exact foldl_frame (by intros; rfl) _ _

lemma frame_numberLines : g.numberLines.frame = g.frame :=
 foldl_frame (f := fun s : Graph × Nat => s.1.frame) (k := numberBlock) (fun _ _ => rfl) g.order (g, 0)

end

lemma ready_numberLines (hl : g.net.Linked) (he : g.entry ∈ g.net.nodes)
  (hc : ∀ n ∈ g.net.nodes, g.net.Leads g.entry n) : g.reorder.numberLines.Ready := by
 have hr : g.reorder.order = g.net.rpo g.entry := congrArg (·.2.2) (frame_reorder g)
 have hd : g.reorder.order.Nodup := by
  rw [hr]
  exact (g.net.order_searched g.entry).2.2
 obtain ⟨laid, -⟩ := laid_numberBlocks hd (g.reorder, 0) fun _ _ => rfl
 have all := (frame_numberLines g.reorder).trans (frame_reorder g)
 simp only [frame, Prod.mk.injEq] at all
 obtain ⟨net, hs, ho⟩ := all
 have order := ho.trans hr.symm
 refine ⟨⟨?_, ?_, ?_, ?_⟩, fun n hi => ?_, fun n hi m hn l hl k hk => ?_⟩
 · rwa [net]
 · rwa [net, hs]
 · rwa [net, hs]
 · rw [net, hs, ho]
 · obtain ⟨a, -, lines, -⟩ := laid.each (order ▸ hi)
   exact (congrArg Ascending lines).mpr (ascending_numbered a _)
 · exact laid.apart (order ▸ hi) (order ▸ hn) hl hk

end Graph

/-! ## Two graphs -/

section samples

open Statement Block Graph

def triangle : Net := ((((Net.empty.addNode 0).addNode 1).addNode 2).addEdge 0 1 |>.addEdge 0 2).addEdge 1 2

lemma triangle_linked : triangle.Linked :=
 (((((Net.Linked.empty.addNode 0).addNode 1).addNode 2).addEdge (by decide) (by decide)).addEdge
  (by decide) (by decide)).addEdge (by decide) (by decide)

lemma reached_of_succs {g : Net} (hn : g.nodes = [0, 1, 2]) (one : 1 ∈ g.succs 0) (two : 2 ∈ g.succs 0) :
  ∀ n ∈ g.nodes, g.Leads 0 n := by
 rw [hn]
 simp only [forall_mem_cons, not_mem_nil, false_imp_iff, implies_true, and_true]
 exact ⟨.refl, .single one, .single two⟩

variable (first : List Statement)

/-- The statements, then: `if (p1 != 0) p1 = 5; return p1;`. -/
def choosing : Graph :=
 let p : Name := .reg 1
 let lines (ss : List Statement) : List Line := ss.map (Line.mk 0)
 let test := act (.compareZero .eq false p) [(p, .leaf (.param 1 "I"))]
 let change := assign (.param 1 "I") true (.leaf (.constant ⟨.int 5, "I", .int 5⟩))
 let result := act (.giveBack (some p)) [(p, .leaf (.param 1 "I"))]
 numberLines <| reorder
  { net := triangle
    blocks := #[make "test" .condition .condition (lines (first ++ [test])),
     make "change" .plain .plain (lines [change]), make "result" .giveBack .giveBack (lines [result])]
    order := []
    entry := 0
    exit := none }

lemma choosing_ready : (choosing first).Ready :=
 ready_numberLines triangle_linked (by decide : 0 ∈ triangle.nodes)
  (reached_of_succs (g := triangle) (by decide) (by decide) (by decide))

def circle : Net := triangle.addEdge 2 1

/-- The same without statements before, and at the end back to the change. -/
def circling : Graph := { choosing [] with net := circle, order := circle.rpo 0, entry := 0 }

lemma circling_entered : circling.Entered :=
 ⟨triangle_linked.addEdge (by decide) (by decide), by decide, reached_of_succs (by decide) (by decide) (by decide), rfl⟩

end samples

namespace Reaching

variable {g : Graph} {params : List Int} {d : Int} {n : Nat}

/-- Every place that a graph knows. -/
def known (t : Defs) : List Int := -1 :: t.places.flatMap (·.2)

lemma known_of_last (last : d ∈ (Defs.find g params).last n) : d ∈ known (Defs.find g params) := by
 by_cases hi : n ∈ g.order
 · obtain ⟨x, hm, -⟩ := (mem_last_iff hi).mp last
   have hp : d ∈ (Defs.find g params).of x := mem_of.mpr (.inr ⟨n, hi, hm⟩)
   rw [of, places_eq, mem_getD_iff (nodup_addingAll (by simp) _), <- places_eq] at hp
   obtain ⟨ps, he, hm⟩ := hp
   exact mem_cons_of_mem _ (mem_flatMap.mpr ⟨(x, ps), he, hm⟩)
 · simp [Defs.last, inside_eq, hi] at last

lemma known_of_arrives (ha : Arrives g (Defs.find g params) d n) : d ∈ known (Defs.find g params) := by
 induction ha with
 | start => exact mem_cons_self
 | fresh _ last => exact known_of_last last
 | hop _ _ _ ih => exact ih

lemma find_settled (he : g.Entered) (params : List Int) :
  Settling g (Defs.find g params) [] (find g (Defs.find g params)) ∧
  ∃ k, (round g (Defs.find g params))^[k] (g.order, default) = ([], find g (Defs.find g params)) := by
 generalize same : Defs.find g params = t
 refine (Settling.start g t).run (known t) he (fun n d ha => ?_) (fun n d hl => ?_) (fun n hi => hi) ?_
 · subst same
   exact known_of_arrives ha
 · subst same
   exact hl.elim known_of_last (known_of_arrives ·.1)
 · have ht : (known t).length = Total.ofNats (t.places.map (·.2.length)) + 1 := by
    rw [known, length_cons, length_flatMap]
    rfl
   have he : room g (known t).length [] = g.order.length * (known t).length := by simp [room, entry]
   change g.order.length + g.order.length * (room g (known t).length [] + room g (known t).length []) ≤ _
   rw [he, ht]
   nlinarith

/-! ## The equations -/

/-- The places of a name: -1 if it is a parameter, and where it is written. -/
def Defines (g : Graph) (params : List Int) (x : Name) (d : Int) : Prop :=
 (∃ p ∈ params, x = .reg p ∧ d = -1) ∨ ∃ n ∈ g.order, (x, d) ∈ writes (g.block n).lines

/-- A block kills the places of all names that it writes. -/
def Kills (g : Graph) (params : List Int) (n : Nat) (d : Int) : Prop :=
 ∃ x e, (x, e) ∈ writes (g.block n).lines ∧ Defines g params x d

/-- The last place where a block writes some name. -/
def WritesLast (g : Graph) (n : Nat) (d : Int) : Prop :=
 ∃ x, (x, d) ∈ writes (g.block n).lines ∧ ∀ e, (x, e) ∈ writes (g.block n).lines -> e ≤ d

structure Solution (g : Graph) (params : List Int) (R A : Nat -> Int -> Prop) : Prop where
 arriving : ∀ n ∈ g.order, ∀ d, R n d ↔ n = g.entry ∧ d = -1 ∨ ∃ p ∈ g.net.preds n, A p d
 leaving : ∀ n ∈ g.order, ∀ d, A n d ↔ WritesLast g n d ∨ R n d ∧ ¬ Kills g params n d

lemma mem_killed_iff (hi : n ∈ g.order) : d ∈ (Defs.find g params).killed n ↔ Kills g params n d := by
 rw [mem_killed hi, Kills]
 refine exists_congr fun x => ?_
 rw [mem_of, <- Defines, exists_and_right, ne_eq, lastWrite_eq_none]
 simp

lemma mem_outflow_iff (hi : n ∈ g.order) {arriving : List Int} : d ∈ outflow (Defs.find g params) n arriving ↔
  WritesLast g n d ∨ d ∈ arriving ∧ ¬ Kills g params n d := by
 rw [mem_outflow, mem_last_iff hi, mem_killed_iff hi, WritesLast]

lemma Solution.of_arrives (he : g.Entered) (s : Solution g params R A) (ha : Arrives g (Defs.find g params) d n)
  (hi : n ∈ g.order) : R n d := by
 induction ha with
 | start => exact (s.arriving _ hi _).mpr (.inl ⟨rfl, rfl⟩)
 | @fresh d p n edge last =>
  have hp := he.pred_mem edge
  exact (s.arriving n hi d).mpr (.inr ⟨p, edge, (s.leaving p hp d).mpr (.inl ((mem_last_iff hp).mp last))⟩)
 | @hop d p n edge _ kept ih =>
  have hp := he.pred_mem edge
  have out := (s.leaving p hp d).mpr (.inr ⟨ih hp, fun killed => kept ((mem_killed_iff hp).mpr killed)⟩)
  exact (s.arriving n hi d).mpr (.inr ⟨p, edge, out⟩)

lemma Settling.solution (s : Settling g (Defs.find g params) [] r) :
  Solution g params (fun n d => d ∈ entry r.arriving n) fun n d => d ∈ entry r.leaving n where
 arriving n hi d := by
  rw [<- mem_inflow]
  exact ⟨s.grownIn n d, s.currentIn n hi not_mem_nil d⟩
 leaving n hi d := by
  rw [<- mem_outflow_iff hi]
  exact ⟨s.grownOut n d, s.currentOut n hi not_mem_nil d⟩

lemma mem_arriving (hr : g.Ready) (hi : n ∈ g.order) :
  d ∈ entry (find g (Defs.find g params)).arriving n ↔ Arrives g (Defs.find g params) d n := by
 obtain ⟨hs, -⟩ := find_settled hr.toEntered params
 exact ⟨hs.arriving n d, (hs.solution.of_arrives hr.toEntered · hi)⟩

end Reaching

end DexLens.Source
