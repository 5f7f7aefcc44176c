import DexLens.Proofs.Source.Reaching
import DexLens.Proofs.Source.Registers
import DexLens.Source.Writer

/-! # What conditions say

Blocks that test something stand for a truth function of what the terms in them are worth. Negating them in place makes the
function its negation. Writing them turns first parts around for good, so that afterwards they say what they would say if
nothing was to be turned around.
-/

namespace DexLens.Source

open List Term Writing

/-- What terms are worth. -/
abbrev Valuation := Term -> Int

def Relation.holds : Relation -> Int -> Int -> Bool
 | eq, a, b => a = b
 | ne, a, b => a ≠ b
 | lt, a, b => a < b
 | ge, a, b => b ≤ a
 | gt, a, b => b < a
 | le, a, b => a ≤ b

lemma Relation.holds_opposite (r : Relation) (a b : Int) : r.opposite.holds a b = !r.holds a b := by
 cases r <;> grind [opposite, holds]

namespace Statement

def holds (v : Valuation) : Statement -> Bool
 | act (.compare r a b) xs => r.holds (v (operand xs a)) (v (operand xs b))
 | act (.compareZero r _ a) xs => r.holds (v (operand xs a)) 0
 | _ => false

/-- Tests of a kind can be negated, and stay of that kind. -/
def Closed (kind : Statement -> Prop) : Prop := ∀ s, kind s -> ∃ s', s.negate = .ok s' ∧ kind s' ∧ ∀ v, s'.holds v = !s.holds v

lemma closed_condition : Closed (·.isCondition) := by
 intro s hc
 unfold isCondition at hc
 split at hc
 · exact ⟨_, rfl, rfl, fun v => Relation.holds_opposite _ _ _⟩
 · exact ⟨_, rfl, rfl, fun v => Relation.holds_opposite _ _ _⟩
 · cases hc

/-- The pieces in which a test of numbers is written, in a constructor or not, the last first. -/
inductive Spelled (k : Bool) : Statement -> List String -> Prop where
 | compare (r : Relation) : (operand xs a).phrase k = .ok (.of s) -> (operand xs b).phrase k = .ok (.of t) ->
   Spelled k (act (.compare r a b) xs) [t, s!" {r.text} ", s]
 | zero (r : Relation) (turned : Bool) : (operand xs a).phrase k = .ok (.of s) -> (operand xs a).type? ≠ some "Z" ->
   (∀ op b c ty ys, operand xs a ≠ .node (.binary true op b c ty) ys) ->
   Spelled k (act (.compareZero r turned a) xs) [s!" {r.text} 0", s]

def Spellable (k : Bool) (s : Statement) : Prop := ∃ ps, s.Spelled k ps

lemma closed_spellable : Closed (Spellable k) := by
 rintro s ⟨_, hs⟩
 cases hs with
 | compare r hs ht => exact ⟨_, rfl, ⟨_, .compare r.opposite hs ht⟩, fun v => r.holds_opposite _ _⟩
 | zero r turned hs plain other => exact ⟨_, rfl, ⟨_, .zero r.opposite true hs plain other⟩, fun v => r.holds_opposite _ _⟩

end Statement

/-- How conditions are nested, and whether the first of two is turned around. -/
inductive Nest where
 | test (n : Nat)
 | joined (n : Nat) (turned : Bool) (first second : Nest)
 | loop (n : Nat) (body : Nest)

namespace Nest

def root : Nest -> Nat
 | test n | joined n _ _ _ | loop n _ => n

def nodes : Nest -> List Nat
 | test n => [n]
 | joined n _ a b => n :: (a.nodes ++ b.nodes)
 | loop n c => n :: c.nodes

/-- The blocks of a nest have its shape, and tests are of a kind. -/
def Fits (kind : Statement -> Prop) (g : Graph) : Nest -> Prop
 | test n => (g.block n).shape = .condition ∧ ∃ l, (g.block n).lines = [l] ∧ kind l.code
 | joined n turned a b => (∃ both, (g.block n).shape = .joined a.root b.root both turned) ∧ a.Fits kind g ∧ b.Fits kind g
 | loop n c => (g.block n).shape = .loop c.root ∧ c.Fits kind g

def join (both x y : Bool) : Bool := bif both then x && y else x || y

lemma not_join (both x y : Bool) : (!join both x y) = join (!both) (!x) (!y) := by cases both <;> simp [join]

/-- What blocks say. If it is not heeded, nothing counts as turned around. -/
def holds (heeded : Bool) (g : Graph) (v : Valuation) : Nest -> Bool
 | test n => (g.block n).lines.any (·.code.holds v)
 | joined n turned a b =>
  match (g.block n).shape with
  | .joined _ _ both _ => join both (heeded && turned ^^ a.holds heeded g v) (b.holds heeded g v)
  | _ => false
 | loop _ c => c.holds heeded g v

end Nest

/-- Pieces of text, the last first, that stand for a truth function. -/
inductive Spells (k : Bool) : List String -> (Valuation -> Bool) -> Prop where
 | test {s : Statement} : s.Spelled k ps -> Spells k ps s.holds
 | join (both : Bool) : Spells k ps f -> Spells k qs h ->
   Spells k (")" :: (qs ++ (if both then ") && (" else ") || (") :: (ps ++ ["("]))) fun v => Nest.join both (f v) (h v)

/-! ## Runs -/

section

variable {p : Page}

lemma run_ok {f : α -> Writing β} (hx : x.run p = .ok (a, q)) :
  (x >>= f).run p = (f a).run q := by
 rw [StateT.run_bind, hx]
 rfl

lemma run_put (s : String) : (Writing.put s).run p = .ok (⟨⟩, { p with pieces := s :: p.pieces }) := rfl

lemma run_term (ht : t.phrase k = .ok (.of s)) (hk : p.inInit = k) :
  (term t).run p = .ok (⟨⟩, { p with pieces := s :: p.pieces }) := by
 subst hk
 rw [term, run_ok rfl, ht]
 rfl

lemma run_action (hs : s.Spelled p.inInit ps) :
  ∃ s', (action s).run p = .ok (s', { p with pieces := ps ++ p.pieces }) ∧ s'.Spellable p.inInit ∧
   ∀ v, s'.holds v = s.holds v := by
 cases hs with
 | @compare xs a s b t r hs ht =>
  refine ⟨_, ?_, ⟨_, .compare r hs ht⟩, fun _ => rfl⟩
  exact (run_ok (run_term hs rfl)).trans ((run_ok (run_put _)).trans ((run_ok (run_term ht (by rfl))).trans rfl))
 | @zero xs a s r turned hs plain other =>
  have own : operand (put xs a (operand xs a)) a = operand xs a := by rw [operand_put, if_pos rfl]
  have tested : (zeroTest r turned (operand xs a)).run p =
    .ok (operand xs a, { p with pieces := s!" {r.text} 0" :: s :: p.pieces }) := by
   unfold zeroTest
   split
   · exact absurd ‹_› (other _ _ _ _ _)
   · rw [if_neg plain]
     exact (run_ok (run_term hs rfl)).trans rfl
  exact ⟨.act (.compareZero r turned a) (put xs a (operand xs a)), (run_ok tested).trans rfl,
   ⟨_, .zero r turned (by rw [own, hs]) (by rwa [own]) (by rwa [own])⟩, fun v => by simp only [Statement.holds, own]⟩

end

namespace Nest

variable {kind : Statement -> Prop} {g h k : Graph} {a b c : Nest} {n : Nat}

/-! ## Changes in place -/

lemma lt_size_of_shape (hs : (g.block n).shape ≠ .plain) : n < g.blocks.size := by
 by_contra ho
 exact hs (by rw [Graph.block, Array.getD_eq_getD_getElem?, Array.getElem?_eq_none (not_lt.mp ho)]; rfl)

lemma root_mem : c.root ∈ c.nodes := by cases c <;> simp [root, nodes]

lemma fits_congr (same : ∀ m ∈ c.nodes, h.block m = g.block m) :
  (c.Fits kind h ↔ c.Fits kind g) ∧ ∀ heeded v, c.holds heeded h v = c.holds heeded g v := by
 induction c with
 | test n => simp [Fits, holds, same n (by simp [nodes])]
 | joined n turned a b iha ihb =>
  obtain ⟨here, ha, hb⟩ : _ ∧ _ ∧ _ := by simpa only [nodes, forall_mem_cons, forall_mem_append] using same
  simp [Fits, holds, here, iha ha, ihb hb]
 | loop n c ih =>
  obtain ⟨here, hc⟩ := forall_mem_cons.mp same
  simp [Fits, holds, here, ih hc]

lemma Fits.inside (fits : c.Fits kind g) : ∀ m ∈ c.nodes, m < g.blocks.size := by
 induction c with
 | test n => exact forall_mem_singleton.mpr (lt_size_of_shape (by simp [fits.1]))
 | joined n turned a b iha ihb =>
  obtain ⟨⟨both, shape⟩, ha, hb⟩ := fits
  exact forall_mem_cons.mpr ⟨lt_size_of_shape (by simp [shape]), forall_mem_append.mpr ⟨iha ha, ihb hb⟩⟩
 | loop n c ih => exact forall_mem_cons.mpr ⟨lt_size_of_shape (by simp [fits.1]), ih fits.2⟩

lemma Fits.length_lt (fits : c.Fits kind g) (once : c.nodes.Nodup) : c.nodes.length < g.blocks.size + 1 := by
 have := (subperm_of_subset once fun m hm => mem_range.mpr (fits.inside m hm)).length_le
 rwa [length_range, <- Nat.lt_succ_iff] at this

/-- Only the blocks of a nest have changed, and still have its shape. -/
structure Changes (kind : Statement -> Prop) (c : Nest) (g h : Graph) : Prop where
 others : ∀ m ∉ c.nodes, h.block m = g.block m
 fits : c.Fits kind h

namespace Changes

/-- What has no block in common with a nest does not change with it. -/
lemma apart (change : Changes kind a g h) (apart : b.nodes.Disjoint a.nodes) :
  (b.Fits kind h ↔ b.Fits kind g) ∧ ∀ heeded v, b.holds heeded h v = b.holds heeded g v :=
 fits_congr fun m hm => change.others m (apart hm)

lemma test (fits : (Nest.test n).Fits kind g) (hl : (F (g.block n)).lines = [l])
  (hs : (F (g.block n)).shape = (g.block n).shape) (hk : kind l.code) :
  Changes kind (.test n) g (g.alter n F) ∧ ∀ heeded v, (Nest.test n).holds heeded (g.alter n F) v = l.code.holds v := by
 have own := Graph.block_alter g n F n
 rw [if_pos ⟨rfl, fits.inside n mem_cons_self⟩] at own
 refine ⟨⟨fun m ho => ?_, by rw [own, hs, fits.1], l, by rw [own, hl], hk⟩, fun _ v => ?_⟩
 · rw [Graph.block_alter, if_neg fun h => ho (mem_singleton.mpr h.1.symm)]
 · simp [holds, own, hl]

lemma joined (once : (Nest.joined n turned a b).nodes.Nodup)
  (shape : (g.block n).shape = .joined a.root b.root both turned) (ha : Changes kind a g h) (hb : Changes kind b h k) :
  Changes kind (.joined n turned a b) g k ∧ ∀ heeded v, (Nest.joined n turned a b).holds heeded k v =
   join both (heeded && turned ^^ a.holds heeded h v) (b.holds heeded k v) := by
 obtain ⟨hn, hd⟩ := nodup_cons.mp once
 obtain ⟨hna, hnb⟩ := not_or.mp (mt mem_append.mpr hn)
 obtain ⟨fits, same⟩ := hb.apart (disjoint_of_nodup_append hd)
 have here : (k.block n).shape = .joined a.root b.root both turned := by rw [hb.others n hnb, ha.others n hna, shape]
 refine ⟨⟨fun m ho => ?_, ⟨both, here⟩, fits.mpr ha.fits, hb.fits⟩, fun heeded v => ?_⟩
 · simp only [nodes, mem_cons, mem_append, not_or] at ho
   rw [hb.others m ho.2.2, ha.others m ho.2.1]
 · simp only [holds, here, same]

lemma loop (change : Changes kind c g h) (shape : (g.block n).shape = .loop c.root) (hn : n ∉ c.nodes) :
  Changes kind (.loop n c) g h :=
 ⟨fun m ho => change.others m fun hm => ho (mem_cons_of_mem n hm), by rw [change.others n hn, shape], change.fits⟩

end Changes

/-- Negating changes nothing but the blocks of the nest. -/
lemma Fits.run_negate (hk : Statement.Closed kind) (fits : c.Fits kind p.graph) (once : c.nodes.Nodup)
  (deep : c.nodes.length < d) : ∃ h, (negate d c.root).run p = .ok (⟨⟩, { p with graph := h }) ∧
   Changes kind c p.graph h ∧ ∀ heeded v, c.holds heeded h v = !c.holds heeded p.graph v := by
 induction c generalizing p d with
 | test n =>
  obtain _ | d := d
  · cases deep
  obtain ⟨shape, l, lines, hl⟩ := id fits
  obtain ⟨s, hn, hs, hv⟩ := hk l.code hl
  obtain ⟨change, value⟩ := Changes.test (F := fun b => { b with lines := [{ l with code := s }] }) fits rfl rfl hs
  refine ⟨_, ?_, change, fun heeded v => ?_⟩
  · rw [root, negate, run_ok rfl]
    simp only [shape]
    rw [run_ok (by rw [onlyLine, lines]; rfl), hn]
    rfl
  · rw [value, hv]
    simp [holds, lines]
 | joined n turned a b iha ihb =>
  obtain _ | d := d
  · cases deep
  obtain ⟨⟨both, shape⟩, fa, fb⟩ := fits
  obtain ⟨hn, hd⟩ := nodup_cons.mp once
  obtain ⟨hna, hnb⟩ := not_or.mp (mt mem_append.mpr hn)
  obtain ⟨da, db, dis⟩ := nodup_append'.mp hd
  simp only [nodes, length_cons, length_append] at deep
  let q : Page := { p with graph := p.graph.alter n fun c => { c with shape := .joined a.root b.root (!both) turned } }
  have hq : ∀ m, m ≠ n -> q.graph.block m = p.graph.block m := fun m ho => by
   rw [Graph.block_alter, if_neg (ho ·.1.symm)]
  have turn : (q.graph.block n).shape = .joined a.root b.root (!both) turned := by
   rw [Graph.block_alter, if_pos ⟨rfl, lt_size_of_shape (by simp [shape])⟩]
  obtain ⟨qa, va⟩ := fits_congr fun m hm => hq m (ne_of_mem_of_not_mem hm hna)
  obtain ⟨qb, vb⟩ := fits_congr fun m hm => hq m (ne_of_mem_of_not_mem hm hnb)
  obtain ⟨g₁, run₁, change₁, value₁⟩ := iha (d := d) (qa.mpr fa) da (by omega)
  obtain ⟨sb, wb⟩ := change₁.apart dis.symm
  obtain ⟨g₂, run₂, change₂, value₂⟩ := ihb (p := { q with graph := g₁ }) (d := d) (sb.mpr (qb.mpr fb)) db (by omega)
  obtain ⟨change, value⟩ := Changes.joined once turn change₁ change₂
  refine ⟨g₂, ?_, ⟨fun m ho => ?_, change.fits⟩, fun heeded v => ?_⟩
  · rw [root, negate, run_ok rfl]
    simp only [shape]
    rw [run_ok rfl, run_ok run₁, run₂]
  · exact (change.others m ho).trans (hq m (ne_of_mem_of_not_mem root_mem ho).symm)
  · rw [value, value₁, value₂, wb, va, vb, holds, shape, not_join]
    simp
 | loop n c ih =>
  obtain _ | d := d
  · cases deep
  obtain ⟨hn, once⟩ := nodup_cons.mp once
  obtain ⟨h, run, change, value⟩ := ih fits.2 once (Nat.lt_of_succ_lt_succ deep)
  refine ⟨h, ?_, change.loop fits.1 hn, value⟩
  rw [root, negate, run_ok rfl]
  simp only [fits.1]
  rw [run]

/-- What is written says what the nest says. Afterwards the nest says what it would if nothing was turned around in it. -/
lemma Fits.run_condition {k : Bool} (hk : p.inInit = k) (fits : c.Fits (Statement.Spellable k) p.graph)
  (once : c.nodes.Nodup) (deep : c.nodes.length < d) :
  ∃ h ps, (condition d c.root).run p = .ok (⟨⟩, { p with graph := h, pieces := ps ++ p.pieces }) ∧
   Changes (Statement.Spellable k) c p.graph h ∧ Spells k ps (c.holds true p.graph) ∧
   ∀ heeded v, c.holds heeded h v = c.holds (!heeded) p.graph v := by
 induction c generalizing p d with
 | test n =>
  obtain _ | d := d
  · cases deep
  subst hk
  obtain ⟨shape, l, lines, ps, hl⟩ := id fits
  obtain ⟨s, run, hs, hv⟩ := run_action hl
  obtain ⟨change, value⟩ := Changes.test (l := { l with code := s }) (F := fun b => { b with
   lines := b.lines.map fun k => if k.loc == l.loc then { k with code := s } else k }) fits (by simp [lines]) rfl hs
  refine ⟨_, ps, ?_, change, ?_, fun heeded v => ?_⟩
  · rw [root, condition, run_ok rfl]
    simp only [shape]
    rw [run_ok (by rw [onlyLine, lines]; rfl)]
    simp only [Writing.lines, forIn_cons, forIn_nil, bind_assoc]
    rw [run_ok run]
    rfl
  · have same : ((test n).holds true p.graph) = fun v => l.code.holds v := by simp [holds, lines]
    exact same ▸ .test hl
  · rw [value, hv]
    simp [holds, lines]
 | joined n turned a b iha ihb =>
  obtain _ | d := d
  · cases deep
  obtain ⟨⟨both, shape⟩, fa, fb⟩ := fits
  obtain ⟨da, db, dis⟩ := nodup_append'.mp (nodup_cons.mp once).2
  simp only [nodes, length_cons, length_append] at deep
  -- The first part is turned around before it is written.
  obtain ⟨g₀, run₀, change₀, value₀⟩ : ∃ h, (∀ rest : Writing Unit, (if turned then do negate d a.root; rest else rest).run p =
    rest.run { p with graph := h }) ∧ Changes (Statement.Spellable k) a p.graph h ∧
    ∀ heeded v, a.holds heeded h v = (turned ^^ a.holds heeded p.graph v) := by
   cases turned with
   | false => exact ⟨p.graph, fun _ => rfl, ⟨fun _ _ => rfl, fa⟩, by simp⟩
   | true =>
    obtain ⟨h, run, change, value⟩ := fa.run_negate (d := d) Statement.closed_spellable da (by omega)
    exact ⟨h, fun _ => run_ok run, change, by simp [value]⟩
  obtain ⟨g₁, ps, run₁, change₁, spells₁, value₁⟩ :=
   iha (p := { p with graph := g₀, pieces := "(" :: p.pieces }) (d := d) hk change₀.fits da (by omega)
  have first : Changes (Statement.Spellable k) a p.graph g₁ :=
   ⟨fun m ho => (change₁.others m ho).trans (change₀.others m ho), change₁.fits⟩
  obtain ⟨sb, wb⟩ := first.apart dis.symm
  obtain ⟨g₂, qs, run₂, change₂, spells₂, value₂⟩ := ihb (p := { p with
   graph := g₁, pieces := (if both then ") && (" else ") || (") :: (ps ++ "(" :: p.pieces) }) (d := d) hk (sb.mpr fb) db (by omega)
  obtain ⟨change, value⟩ := Changes.joined once shape first change₂
  refine ⟨g₂, ")" :: (qs ++ (if both then ") && (" else ") || (") :: (ps ++ ["("])), ?_, change, ?_, fun heeded v => ?_⟩
  · rw [root, condition, run_ok rfl]
    simp only [shape]
    refine (run₀ _).trans ((run_ok (run_put _)).trans ((run_ok run₁).trans ((run_ok (run_put _)).trans
     ((run_ok run₂).trans ((run_put _).trans ?_)))))
    simp
  · have same : ((joined n turned a b).holds true p.graph) =
     fun v => join both (a.holds true g₀ v) (b.holds true g₁ v) := by simp [holds, shape, value₀, wb]
    exact same ▸ .join both spells₁ spells₂
  · rw [value, value₁, value₀, value₂, wb]
    simp only [holds, shape]
    cases heeded <;> cases turned <;> simp
 | loop n c ih =>
  obtain _ | d := d
  · cases deep
  obtain ⟨hn, once⟩ := nodup_cons.mp once
  obtain ⟨h, ps, run, change, spells, value⟩ := ih hk fits.2 once (Nat.lt_of_succ_lt_succ deep)
  refine ⟨h, ps, ?_, change.loop fits.1 hn, spells, value⟩
  rw [root, condition, run_ok rfl]
  simp only [fits.1]
  exact run

/-! ## Results -/

/-- Negating a condition in place negates what it says, and negating it again restores that. -/
theorem negated_exactly {p : Page} (fits : c.Fits (·.isCondition) p.graph) (once : c.nodes.Nodup) :
  ∃ h, (negate (p.graph.blocks.size + 1) c.root).run p = .ok (⟨⟩, { p with graph := h }) ∧
   (∀ m ∉ c.nodes, h.block m = p.graph.block m) ∧ (∀ v, c.holds true h v = !c.holds true p.graph v) ∧
   ∃ k, (negate (h.blocks.size + 1) c.root).run { p with graph := h } = .ok (⟨⟩, { p with graph := k }) ∧
    ∀ v, c.holds true k v = c.holds true p.graph v := by
 obtain ⟨h, run, change, value⟩ := fits.run_negate Statement.closed_condition once (fits.length_lt once)
 obtain ⟨k, again, -, back⟩ := Fits.run_negate (p := { p with graph := h }) Statement.closed_condition change.fits once
  (change.fits.length_lt once)
 exact ⟨h, run, change.others, value true, k, again, fun v => by simp [back, value]⟩

/-- A condition of numbers is written as what it says, but afterwards it says what it would if nothing was turned around. It is
written as that the next time, and then says again what it said first. -/
theorem condition_written {p : Page} (fits : c.Fits (Statement.Spellable p.inInit) p.graph) (once : c.nodes.Nodup) :
  ∃ h ps, (condition (p.graph.blocks.size + 1) c.root).run p = .ok (⟨⟩, { p with graph := h, pieces := ps ++ p.pieces }) ∧
   Spells p.inInit ps (fun v => c.holds true p.graph v) ∧ (∀ v, c.holds true h v = c.holds false p.graph v) ∧
   ∃ k qs, (condition (h.blocks.size + 1) c.root).run { p with graph := h, pieces := ps ++ p.pieces } =
     .ok (⟨⟩, { p with graph := k, pieces := qs ++ (ps ++ p.pieces) }) ∧
    Spells p.inInit qs (fun v => c.holds false p.graph v) ∧ ∀ v, c.holds true k v = c.holds true p.graph v := by
 obtain ⟨h, ps, run, change, spells, value⟩ := fits.run_condition rfl once (fits.length_lt once)
 obtain ⟨k, qs, again, -, also, back⟩ := Fits.run_condition (p := { p with graph := h, pieces := ps ++ p.pieces }) rfl change.fits
  once (change.fits.length_lt once)
 have other : (fun v => c.holds true h v) = fun v => c.holds false p.graph v := funext (value true)
 exact ⟨h, ps, run, spells, value true, k, qs, again, other ▸ also, fun v => (back true v).trans (value false v)⟩

/-- Two tests, the first of them turned around, that a loop goes on with. -/
def sampleGraph : Graph :=
 let test n r := Block.make "" .condition .condition
  [⟨n, .act (.compareZero r false (.reg n)) [(.reg n, .leaf (.named (.reg n)))]⟩]
 { (default : Graph) with
  blocks := #[test 0 .eq, test 1 .lt, .make "" (.joined 0 1 true true) .condition [], .make "" (.loop 2) .condition []] }

def sample : Nest := .loop 3 (.joined 2 true (.test 0) (.test 1))

theorem negated_sample : ∃ h, (negate 5 3).run (.blank sampleGraph false) = .ok (⟨⟩, .blank h false) ∧
  ∀ v, sample.holds true h v = !sample.holds true sampleGraph v := by
 obtain ⟨h, run, -, value, -⟩ := negated_exactly (p := .blank sampleGraph false) (c := sample)
  ⟨rfl, ⟨true, rfl⟩, ⟨rfl, _, rfl, rfl⟩, rfl, _, rfl, rfl⟩ (by decide)
 exact ⟨h, run, value⟩

/-- The sample says something else once it is written. -/
theorem condition_written_sample : ∃ h ps, (condition 5 3).run (.blank sampleGraph false) =
   .ok (⟨⟩, { Page.blank h false with pieces := ps }) ∧ ∃ v, sample.holds true h v ≠ sample.holds true sampleGraph v := by
 obtain ⟨h, ps, run, -, value, -⟩ := condition_written (p := .blank sampleGraph false) (c := sample)
  ⟨rfl, ⟨true, rfl⟩, ⟨rfl, _, rfl, _, .zero _ _ rfl nofun nofun⟩, rfl, _, rfl, _, .zero _ _ rfl nofun nofun⟩ (by decide)
 refine ⟨h, _, run, fun _ => -1, ?_⟩
 rw [value]
 decide

end Nest

end DexLens.Source
