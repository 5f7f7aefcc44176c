import DexLens.Proofs.Analysis.Exact

/-! # The tree of classes is complete

Classes name their superclasses. Without a cycle every class comes to a superclass that is not defined, and the listing
goes down the same way.
-/

namespace DexLens.Dex.Hierarchy

open List

/-- The superclass that is some steps above a class. -/
def climb (ps : List (String × String)) : Nat -> String -> Option String
 | 0, n => some n
 | k + 1, n => (ps.lookup n).bind (climb ps k)

def kids (ps : List (String × String)) (n : String) : List String := (ps.filter (·.2 == n)).map (·.1)

/-- A class and all below it, with their depths. -/
def walk (ps : List (String × String)) : Nat -> Nat -> String -> List (Nat × String)
 | 0, _, _ => []
 | fuel + 1, depth, n => (depth, n) :: (kids ps n).flatMap (walk ps fuel (depth + 1))

/-- The line of a class at a depth. -/
def line (e : Nat × String) : String := if e.1 = 0 then e.2 else Text.times e.1 "\t" ++ " " ++ e.2

variable {ps : List (String × String)}

/-! ## Climbing -/

lemma climb_add (i j : Nat) (n : String) : climb ps (i + j) n = (climb ps i n).bind (climb ps j) := by
 induction i generalizing n with
 | zero => simp [climb]
 | succ i ih =>
  rw [add_right_comm, climb, climb, Option.bind_assoc]
  exact congrArg _ (funext ih)

lemma climb_succ (k : Nat) (n : String) : climb ps (k + 1) n = (climb ps k n).bind fun a => ps.lookup a := by
 rw [climb_add]
 congr 1
 funext a
 rw [climb]
 cases ps.lookup a <;> rfl

/-- A class that is reached in two ways is reached in as many steps, when nothing is above either end or neither end
    is above the other. -/
lemma climb_unique (acyclic : ∀ n k, climb ps (k + 1) n ≠ some n) (ha : ps.lookup a = above)
  (hb : ps.lookup b = above) (first : climb ps i n = some a) (second : climb ps j n = some b) : i ≤ j := by
 by_contra more
 obtain ⟨k, rfl⟩ : ∃ k, i = j + (k + 1) := ⟨i - j - 1, by omega⟩
 rw [climb_add, second, Option.bind_some, climb, hb] at first
 cases above with
 | none => cases first
 | some x =>
  refine acyclic x k ?_
  rw [Option.bind_some] at first
  rw [climb_succ, first, Option.bind_some, ha]

/-- Nothing is higher than there are classes. -/
lemma climb_le (acyclic : ∀ n k, climb ps (k + 1) n ≠ some n) (up : climb ps k n = some a) : k ≤ ps.length := by
 have split : ∀ i < k, ∃ b, climb ps i n = some b ∧ climb ps (k - i) b = some a := by
  intro i less
  rw [<- Nat.add_sub_cancel' less.le, climb_add] at up
  exact Option.bind_eq_some_iff.mp up
 have once : ((range k).map (climb ps · n)).Nodup := by
  refine .map_on (fun i hi j hj same => ?_) nodup_range
  obtain ⟨b, at_i, -⟩ := split i (mem_range.mp hi)
  have at_j := same ▸ at_i
  exact le_antisymm (climb_unique acyclic rfl rfl at_i at_j) (climb_unique acyclic rfl rfl at_j at_i)
 have within : (range k).map (climb ps · n) ⊆ ps.map (some ·.1) := by
  intro x hx
  obtain ⟨i, hi, rfl⟩ := mem_map.mp hx
  have less := mem_range.mp hi
  obtain ⟨b, at_i, rest⟩ := split i less
  obtain ⟨m, same⟩ : ∃ m, k - i = m + 1 := ⟨k - i - 1, by omega⟩
  rw [same, climb] at rest
  obtain ⟨s, known, -⟩ := Option.bind_eq_some_iff.mp rest
  obtain ⟨_, _, rfl, -⟩ := lookup_eq_some_iff.mp known
  exact mem_map.mpr ⟨(b, s), by simp, at_i.symm⟩
 simpa using (once.subperm within).length_le

/-- Every class comes to one that is not defined. -/
lemma exists_top (acyclic : ∀ n k, climb ps (k + 1) n ≠ some n) (n : String) :
  ∃ k r, climb ps k n = some r ∧ ps.lookup r = none := by
 have step : ∀ m, (∃ k r, climb ps k n = some r ∧ ps.lookup r = none) ∨ ∃ a, climb ps m n = some a := by
  intro m
  induction m with
  | zero => exact .inr ⟨n, rfl⟩
  | succ m ih =>
   rcases ih with top | ⟨a, up⟩
   · exact .inl top
   · cases above : ps.lookup a with
     | none => exact .inl ⟨m, a, up, above⟩
     | some s => exact .inr ⟨s, by rw [climb_succ, up, Option.bind_some, above]⟩
 refine (step (ps.length + 1)).resolve_right ?_
 rintro ⟨a, up⟩
 exact absurd (climb_le acyclic up) (by omega)

/-! ## Walking down -/

variable (uniq : (ps.map (·.1)).Nodup)

include uniq

lemma mem_kids : c ∈ kids ps n ↔ ps.lookup c = some n := by
 rw [Lookup.eq_some_iff_mem uniq]
 simp [kids]

lemma nodup_kids : (kids ps n).Nodup := uniq.sublist (filter_sublist.map _)

lemma mem_walk : e ∈ walk ps fuel depth n ↔ ∃ k < fuel, e.1 = depth + k ∧ climb ps k e.2 = some n := by
 induction fuel generalizing depth n with
 | zero => simp [walk]
 | succ fuel ih =>
  rw [walk, mem_cons, mem_flatMap]
  constructor
  · rintro (rfl | ⟨c, hc, he⟩)
    · exact ⟨0, by omega, rfl, rfl⟩
    · obtain ⟨k, less, here, up⟩ := ih.mp he
      refine ⟨k + 1, by omega, by omega, ?_⟩
      rw [climb_succ, up, Option.bind_some, (mem_kids uniq).mp hc]
  · rintro ⟨k, less, here, up⟩
    cases k with
    | zero => exact .inl (Prod.ext here (Option.some.inj up))
    | succ k =>
     rw [climb_succ] at up
     obtain ⟨c, up, above⟩ := Option.bind_eq_some_iff.mp up
     exact .inr ⟨c, (mem_kids uniq).mpr above, ih.mpr ⟨k, by omega, by omega, up⟩⟩

/-- Walks from several classes with nothing or the same class above them do not meet. -/
lemma nodup_walks (acyclic : ∀ n k, climb ps (k + 1) n ≠ some n) {ns : List String} (hn : ns.Nodup)
  (up : ∀ n ∈ ns, ps.lookup n = above) (each : ∀ n ∈ ns, ((walk ps fuel depth n).map (·.2)).Nodup) :
  ((ns.flatMap (walk ps fuel depth)).map (·.2)).Nodup := by
 rw [map_flatMap, nodup_flatMap]
 refine ⟨each, hn.imp_of_mem fun {a b} ha hb differ => ?_⟩
 intro n first second
 obtain ⟨e, he, rfl⟩ := mem_map.mp first
 obtain ⟨e', he', same⟩ := mem_map.mp second
 obtain ⟨i, -, -, first⟩ := (mem_walk uniq).mp he
 obtain ⟨j, -, -, second⟩ := (mem_walk uniq).mp he'
 rw [same] at second
 obtain rfl := le_antisymm (climb_unique acyclic (up a ha) (up b hb) first second)
  (climb_unique acyclic (up b hb) (up a ha) second first)
 exact differ (Option.some.inj (first.symm.trans second))

lemma nodup_walk (acyclic : ∀ n k, climb ps (k + 1) n ≠ some n) : ((walk ps fuel depth n).map (·.2)).Nodup := by
 induction fuel generalizing depth n with
 | zero => exact .nil
 | succ fuel ih =>
  have above : ∀ c ∈ kids ps n, ps.lookup c = some n := fun c hc => (mem_kids uniq).mp hc
  rw [walk, map_cons, nodup_cons]
  refine ⟨fun again => ?_, nodup_walks uniq acyclic (nodup_kids uniq) above fun _ _ => ih⟩
  obtain ⟨e, he, rfl⟩ := mem_map.mp again
  obtain ⟨c, hc, he⟩ := mem_flatMap.mp he
  obtain ⟨k, -, -, up⟩ := (mem_walk uniq).mp he
  exact acyclic e.2 k (by rw [climb_succ, up, Option.bind_some, above c hc])

/-- A class stands among the deeper lines behind its superclass. -/
lemma walk_block (above : ps.lookup c = some s) (up : climb ps k s = some n) (less : k + 1 < fuel) :
  ∃ before between after, walk ps fuel depth n = before ++ (depth + k, s) :: (between ++ (depth + k + 1, c) :: after) ∧
   ∀ e ∈ between, depth + k < e.1 := by
 induction k generalizing fuel depth n with
 | zero =>
  obtain rfl := Option.some.inj up
  obtain ⟨fuel, rfl⟩ : ∃ f, fuel = f + 2 := ⟨fuel - 2, by omega⟩
  obtain ⟨as, bs, split⟩ := append_of_mem ((mem_kids uniq).mpr above)
  refine ⟨[], as.flatMap (walk ps (fuel + 1) (depth + 1)), (kids ps c).flatMap (walk ps fuel (depth + 2)) ++
   bs.flatMap (walk ps (fuel + 1) (depth + 1)), ?_, fun e he => ?_⟩
  · rw [walk, split, flatMap_append, flatMap_cons]
    rfl
  · obtain ⟨_, -, he⟩ := mem_flatMap.mp he
    obtain ⟨_, -, here, -⟩ := (mem_walk uniq).mp he
    omega
 | succ k ih =>
  rw [climb_succ] at up
  obtain ⟨m, up, next⟩ := Option.bind_eq_some_iff.mp up
  obtain ⟨fuel, rfl⟩ : ∃ f, fuel = f + 1 := ⟨fuel - 1, by omega⟩
  obtain ⟨as, bs, split⟩ := append_of_mem ((mem_kids uniq).mpr next)
  obtain ⟨before, between, after, here, deeper⟩ := @ih m fuel (depth + 1) up (by omega)
  rw [add_right_comm depth 1 k] at here deeper
  refine ⟨(depth, n) :: as.flatMap (walk ps fuel (depth + 1)) ++ before, between,
   after ++ bs.flatMap (walk ps fuel (depth + 1)), ?_, deeper⟩
  rw [walk, split, flatMap_append, flatMap_cons, here]
  simp [add_assoc]

omit uniq

/-! ## The listing -/

lemma lookup_eq_none : ps.lookup n = none ↔ n ∉ ps.map (·.1) := by
 rw [Lookup.eq_none_iff]
 simp

lemma mem_roots : r ∈ roots ps ↔ ps.lookup r = none ∧ r ∈ ps.map (·.2) := by
 have known : (!ps.any (·.1 == r)) = true ↔ ps.lookup r = none := by
  rw [Lookup.eq_none_iff, Bool.not_eq_true', Bool.not_eq_true]
 rw [roots, mem_eraseDups, mem_filter, known, and_comm]

/-- The end of a climb is one of the roots. -/
lemma root_of_climb (known : n ∈ ps.map (·.1) ∨ n ∈ ps.map (·.2)) (up : climb ps k n = some r)
  (top : ps.lookup r = none) : r ∈ roots ps := by
 refine mem_roots.mpr ⟨top, ?_⟩
 cases k with
 | zero =>
  obtain rfl := Option.some.inj up
  exact known.resolve_left (lookup_eq_none.mp top)
 | succ k =>
  rw [climb_succ] at up
  obtain ⟨a, -, above⟩ := Option.bind_eq_some_iff.mp up
  obtain ⟨_, _, rfl, -⟩ := lookup_eq_some_iff.mp above
  simp

lemma forest_lines {ns : List String} (each : ∀ n ∈ ns, ∃ t, below ps fuel n = .ok t ∧
   ∀ depth, lines depth t = (walk ps fuel depth n).map line) :
  ∃ ts, ns.mapM (below ps fuel) = .ok ts ∧ ∀ depth, linesAll depth ts = (ns.flatMap (walk ps fuel depth)).map line := by
 induction ns with
 | nil => exact ⟨[], rfl, fun _ => rfl⟩
 | cons n ns ih =>
  obtain ⟨⟨t, made, shown⟩, each⟩ := forall_mem_cons.mp each
  obtain ⟨ts, rest, others⟩ := ih each
  refine ⟨t :: ts, ?_, fun depth => ?_⟩
  · rw [mapM_cons, made, rest]
    rfl
  · rw [linesAll, shown, others, flatMap_cons, map_append]

/-- The tree below a class has the lines of the walk, if no class is too far below. -/
lemma below_lines (uniq : (ps.map (·.1)).Nodup) (short : ∀ m, climb ps fuel m ≠ some n) :
  ∃ t, below ps fuel n = .ok t ∧ ∀ depth, lines depth t = (walk ps fuel depth n).map line := by
 induction fuel generalizing n with
 | zero => exact absurd rfl (short n)
 | succ fuel ih =>
  have each : ∀ c ∈ kids ps n, _ := fun c hc =>
   ih fun m up => short m (by rw [climb_succ, up, Option.bind_some, (mem_kids uniq).mp hc])
  obtain ⟨ts, made, shown⟩ := forest_lines each
  refine ⟨.node n ts, ?_, fun depth => ?_⟩
  · rw [below]
    exact Res.bind_of_ok made _
  · rw [lines, shown, walk, map_cons]
    rfl

/-- There is no cycle where superclasses have a lower rank. -/
lemma acyclic_of_rank (rank : String -> Nat) (less : ∀ p ∈ ps, rank p.2 < rank p.1) (n : String) (k : Nat) :
  climb ps (k + 1) n ≠ some n := by
 have lower : ∀ k n a, climb ps k n = some a -> rank a + k ≤ rank n := by
  intro k
  induction k with
  | zero =>
   intro n a up
   rw [Option.some.inj up]
   exact le_rfl
  | succ k ih =>
   intro n a up
   obtain ⟨s, above, up⟩ := Option.bind_eq_some_iff.mp up
   obtain ⟨_, _, rfl, -⟩ := lookup_eq_some_iff.mp above
   have : rank s < rank n := less (n, s) (by simp)
   have := ih s a up
   omega
 intro again
 have := lower _ _ _ again
 omega

end DexLens.Dex.Hierarchy
