import DexLens.Proofs.Source.Reaching

/-! # Numbers of blocks

Blocks are numbered in the order of a search from the entry. A block has a greater number than one from which it is
entered, and without circles a greater one than all of them.
-/

namespace DexLens.Source.Graph

open List

variable {g : Graph}

/-- Number blocks one after the other. -/
def numberFrom (k : Nat) (g : Graph) (ns : List Nat) : Graph :=
 (ns.zipIdx k).foldl (fun g p => g.alter p.1 fun b => { b with num := p.2 + 1 }) g

lemma num_alter (g : Graph) (n k m : Nat) : (g.alter n fun b => { b with num := k }).num m =
  if n = m ∧ n < g.blocks.size then k else g.num m := by
 rw [num, block_alter]
 split <;> rfl

lemma num_of_not_mem (hm : m ∉ ns) (k : Nat) (g : Graph) : (numberFrom k g ns).num m = g.num m := by
 induction ns generalizing k g with
 | nil => rfl
 | cons n ns ih =>
  obtain ⟨other, hm⟩ := not_or.mp (mt mem_cons.mpr hm)
  exact (ih hm (k + 1) _).trans ((num_alter ..).trans (if_neg fun same => other same.1.symm))

lemma num_numberFrom (hn : ns.Nodup) (k : Nat) (g : Graph) (known : ∀ n ∈ ns, n < g.blocks.size)
  (hi : ns[i]? = some m) : (numberFrom k g ns).num m = k + i + 1 := by
 induction ns generalizing k g i with
 | nil => simp at hi
 | cons n ns ih =>
  obtain ⟨here, hn⟩ := nodup_cons.mp hn
  obtain ⟨hk, known⟩ := forall_mem_cons.mp known
  cases i with
  | zero =>
   obtain rfl : n = m := by simpa using hi
   exact (num_of_not_mem here (k + 1) _).trans ((num_alter ..).trans (if_pos ⟨rfl, hk⟩))
  | succ i =>
   refine (ih hn (k + 1) _ (fun n hm => ?_) (by simpa using hi)).trans (by omega)
   exact (known n hm).trans_eq Array.size_modify.symm

/-- Numbers grow along the order. -/
lemma num_lt {h : Graph} (numbers : ∀ i n, h.order[i]? = some n -> h.num n = i + 1) (ho : h.order = ms ++ b :: ks)
  (ha : a ∈ ms) : h.num a < h.num b := by
 obtain ⟨i, hi, rfl⟩ := getElem_of_mem ha
 rw [numbers ms.length b (by simp [ho]), numbers i ms[i] (by simp [ho, hi, getElem?_append_left])]
 omega

theorem order_numbered (g : Graph) (known : ∀ n, g.net.Leads g.entry n -> n < g.blocks.size) :
  let h := g.reorder
  (∀ n, n ∈ h.order ↔ g.net.Leads g.entry n) ∧ h.order.Nodup ∧ h.order.head? = some g.entry ∧
   (∀ i n, h.order[i]? = some n -> h.num n = i + 1) ∧
   (∀ n ∈ h.order, n ≠ g.entry -> ∃ p ∈ h.order, n ∈ g.net.succs p ∧ h.num p < h.num n) ∧
   ((∀ n, ¬ Relation.TransGen (fun a b => b ∈ g.net.succs a) n n) ->
    ∀ a ∈ h.order, ∀ b ∈ g.net.succs a, h.num a < h.num b) := by
 intro h
 have same : h.order = g.net.rpo g.entry := congrArg (·.2.2) (frame_reorder g)
 have reached : ∀ n, n ∈ h.order ↔ g.net.Leads g.entry n := fun n => same ▸ Net.mem_order_iff
 have hn : h.order.Nodup := same ▸ (g.net.order_searched g.entry).2.2
 have numbers : ∀ i n, h.order[i]? = some n -> h.num n = i + 1 := by
  intro i n hi
  have hk := num_numberFrom (same ▸ hn) 0 { g with order := g.net.rpo g.entry }
   (fun n hm => known n (Net.mem_order_iff.mp hm)) (same ▸ hi)
  rwa [Nat.zero_add] at hk
 obtain ⟨rest, ho, led⟩ := g.net.order_led g.entry
 refine ⟨reached, hn, by rw [same, ho, head?_cons], numbers, fun n hm other => ?_, fun free a ha b edge => ?_⟩
 · obtain ⟨ms, ks, rfl⟩ := append_of_mem ((mem_cons.mp (ho ▸ same ▸ hm)).resolve_left other)
   obtain ⟨p, hp, edge⟩ := led.earlier
   have split : h.order = (g.entry :: ms) ++ n :: ks := same.trans ho
   have hp : p ∈ g.entry :: ms := by simpa using hp
   exact ⟨p, split ▸ mem_append_left _ hp, edge, num_lt numbers split hp⟩
 · -- What is entered from a node comes behind it.
   obtain ⟨ms, ks, split⟩ := append_of_mem ha
   have falls : g.net.Falls (g.net.rpo g.entry) := Net.order_falls fun a b edge back => free b (.tail' back edge)
   obtain ⟨ms', ks', rfl⟩ := append_of_mem (falls a ks (same ▸ split ▸ suffix_append ..) b edge)
   exact num_lt numbers (split.trans (append_assoc ms (a :: ms') (b :: ks')).symm) (by simp)

/-- Two blocks that lead to each other, and one that nothing leads to. -/
theorem circle_numbered : let g : Graph := ⟨⟨[0, 1, 2, 3], [(0, [2]), (2, [1]), (1, [2]), (3, [1])], []⟩,
   #[default, default, default, default], [], 0, none⟩
  g.reorder.order = [0, 2, 1] ∧ ¬ g.net.Leads 0 3 := by
 intro g
 have known : ∀ n, g.net.Leads g.entry n -> n < g.blocks.size := by
  intro n way
  induction way with
  | refl => decide
  | @tail b c _ edge _ =>
   rcases b with _ | _ | _ | _ | b
   all_goals revert c; first | decide | simp [g, Net.succs, lookup]
 exact ⟨by decide, fun way => absurd ((order_numbered g known).1 3 |>.mpr way) (by decide)⟩

end DexLens.Source.Graph
