import DexLens.Proofs.Effect
import DexLens.Proofs.Source.DefUse
import DexLens.Source.Propagate

/-! # Removing what is never used

Lines are seen by their places. A line that goes first gives up what it uses, and lines that lose their last use go
before it; so the lines that are about to go form a stack, on which no place comes twice. What the other lines use
still lists them, and is written by lines that are there.
-/

namespace DexLens.Source

open List Lookup

/-! ## Names that statements use -/

lemma nodup_uniq (ns : List Name) : (uniq ns).Nodup := (mergeSort_perm _ _).nodup_iff.mpr (nodup_eraseDups ns)

lemma Op.nodup_used (ht : ∀ n, (t.of n).Nodup) (op : Op) : (op.used t).Nodup := by
 cases op <;> simp only [used, nodup_uniq, nodup_nil, ht]

namespace Term

mutual

lemma nodup_used : ∀ t : Term, t.used.Nodup
 | leaf l => by cases l <;> simp [used, Leaf.used]
 | node op xs => by
  rw [used]
  exact op.nodup_used (nodup_usedAll xs)

lemma nodup_usedAll : ∀ (xs : List (Name × Term)) (n : Name), ((usedAll xs).of n).Nodup
 | [], n => nodup_nil
 | (m, x) :: xs, n => by
  rw [usedAll, Found.of, lookup_cons]
  split
  · exact nodup_used x
  · exact nodup_usedAll xs n

end

end Term

namespace Statement

variable (s : Statement)

lemma nodup_used : s.used.Nodup := by
 cases s with
 | assign l d v => exact v.nodup_used
 | act a xs =>
  cases a with
  | giveBack v => cases v <;> simp [used, Term.nodup_used]
  | _ => simp [used, Term.nodup_used, nodup_uniq]

@[simp] lemma used_dropTarget : s.dropTarget.used = s.used := by cases s <;> rfl

lemma dropTarget_eq {s : Statement} (ht : s.dropTarget.target? = some x) : s.dropTarget = s := by
 cases s with
 | assign l d v => cases ht
 | act a xs => rfl

end Statement

/-! ## Lines by their places -/

namespace Graph

variable {g : Graph} {i : Nat} {f : List Line -> List Line}

lemma lines_editLines (g : Graph) (i : Nat) (hf : f [] = []) (n : Nat) : ((g.editLines i f).block n).lines =
  if g.blockAt? i = some n then f (g.block n).lines else (g.block n).lines := by
 rw [editLines]
 cases g.blockAt? i with
 | none => simp
 | some m => simpa using lines_alter g m (fun b => { b with lines := f b.lines }) hf n

lemma range_editLines (g : Graph) (i n : Nat) : ((g.editLines i f).block n).range = (g.block n).range := by
 rw [editLines]
 split
 · rw [block_alter]
   split <;> rfl
 · rfl

lemma blockAt?_editLines (g : Graph) (i j : Nat) : (g.editLines i f).blockAt? j = g.blockAt? j := by
 have order : (g.editLines i f).order = g.order := by
  rw [editLines]
  split <;> rfl
 simp only [blockAt?, range_editLines, order]

lemma lineAt?_editLines (g : Graph) (i : Nat) (hf : f [] = []) (j : Nat) : (g.editLines i f).lineAt? j =
  (g.blockAt? j).bind fun n =>
   ((if g.blockAt? i = some n then f (g.block n).lines else (g.block n).lines).find? (·.loc == j)).map Line.code := by
 simp only [lineAt?, blockAt?_editLines, lines_editLines g i hf, Option.map_eq_bind]
 rfl

lemma lineAt?_eq (g : Graph) (j : Nat) :
  g.lineAt? j = (g.blockAt? j).bind fun n => ((g.block n).lines.find? (·.loc == j)).map Line.code := by
 simp only [lineAt?, Option.map_eq_bind]
 rfl

lemma lineAt?_removeLine (g : Graph) (i j : Nat) : (g.removeLine i).lineAt? j = if j = i then none else g.lineAt? j := by
 rw [removeLine, lineAt?_editLines g i rfl, lineAt?_eq]
 cases hb : g.blockAt? j <;> grind

lemma lineAt?_setLine (g : Graph) (i : Nat) (s : Statement) (j : Nat) :
  (g.setLine i s).lineAt? j = if j = i then (g.lineAt? i).map fun _ => s else g.lineAt? j := by
 rw [setLine, lineAt?_editLines g i rfl, lineAt?_eq, lineAt?_eq]
 cases hb : g.blockAt? j with
 | none => grind
 | some n => cases hl : (g.block n).lines.find? (·.loc == j) <;> grind

/-- A graph without its lines. -/
def skeleton (g : Graph) : Graph := { g with blocks := g.blocks.map fun b => { b with lines := [] } }

/-- Nothing but lines has changed, and no line was added or moved. -/
def Thinned (g g' : Graph) : Prop := g'.skeleton = g.skeleton ∧ ∀ n, (g'.places n).Sublist (g.places n)

lemma Thinned.trans (one : Thinned g g') (two : Thinned g' g'') : Thinned g g'' :=
 ⟨two.1.trans one.1, fun n => (two.2 n).trans (one.2 n)⟩

lemma Thinned.edit (g : Graph) (i : Nat) (hf : ∀ ls, ((f ls).map Line.loc).Sublist (ls.map Line.loc)) :
  Thinned g (g.editLines i f) := by
 rw [editLines]
 split
 · next m _ =>
    refine ⟨?_, fun n => ?_⟩
    · have same : ((g.blocks.modify m fun b => { b with lines := f b.lines }).map fun b => { b with lines := [] }) =
        g.blocks.map fun b => { b with lines := [] } := by ext <;> grind
      simp only [skeleton, alter, same]
    · rw [places, block_alter]
      split
      · exact hf _
      · exact .refl _
 · exact ⟨rfl, fun _ => .refl _⟩

lemma Thinned.setLine (g : Graph) (i : Nat) (s : Statement) : Thinned g (g.setLine i s) := .edit g i fun ls => by
 rw [map_map, map_congr_left (g := Line.loc) (by grind)]

lemma Thinned.removeLine (g : Graph) (i : Nat) : Thinned g (g.removeLine i) := .edit g i fun _ => filter_sublist.map _

lemma mem_places (here : g.lineAt? i = some s) : i ∈ g.order.flatMap g.places := by
 rw [lineAt?_eq] at here
 obtain ⟨n, hb, here⟩ := Option.bind_eq_some_iff.mp here
 obtain ⟨l, hl, -⟩ := Option.map_eq_some_iff.mp here
 rw [<- show l.loc = i by simpa using find?_some hl]
 exact mem_flatMap.mpr ⟨n, mem_of_find?_eq_some hb, mem_map_of_mem (mem_of_find?_eq_some hl)⟩

end Graph

/-! ## Chains of the lines that stay -/

lemma Chain.drop_eq {c : Chain} {e : Int} (hm : e ∈ (c.of? x d).getD []) :
  c.drop x d e = .ok (c.update x d (·.erase e)) := by
 rw [drop]
 cases hl : c.of? x d with
 | none => simp [hl] at hm
 | some ls => simpa [hl] using hm

namespace Woven

variable {v w w' w'' : Woven} {T T' : List Nat} {x : Name} {d : Int} {i p : Nat} {s : Statement} {o : Option Statement}

/-- What a line uses and has not given up is written by a line. The lines outside the stack have given up nothing, and
    what those on it write is used nowhere. -/
structure Sound (w : Woven) (T : List Nat) : Prop where
 listed : ∀ i ∉ T, ∀ s, w.line? i = some s -> ∀ x ∈ s.used, ∀ d ∈ w.srcs x i, (i : Int) ∈ w.uses x d
 defined : ∀ i s, w.line? i = some s -> ∀ x ∈ s.used, ∀ d : Nat, (d : Int) ∈ w.srcs x i -> (i : Int) ∈ w.uses x d ->
  ∃ t, w.line? d = some t ∧ t.target? = some x
 leaving : ∀ p ∈ T, ∃ s x, w.line? p = some s ∧ s.target? = some x ∧ w.uses x p = []
 nodup : T.Nodup

/-- What may happen while the lines on the stack wait. -/
structure Trims (T : List Nat) (w w' : Woven) : Prop where
 ud : w'.ud = w.ud
 graph : w.graph.Thinned w'.graph
 held : ∀ p ∈ T, ∀ x d, (p : Int) ∈ w.uses x d -> (p : Int) ∈ w'.uses x d
 lines : ∀ i, w'.line? i = w.line? i ∨ ∃ s x, w.line? i = some s ∧ s.target? = some x ∧
  (s.isCall ∧ w'.line? i = some s.dropTarget ∨ ¬ s.isCall ∧ ¬ s.hasEffect ∧ w'.line? i = none)

namespace Trims

lemma refl (T : List Nat) (w : Woven) : Trims T w w :=
 ⟨rfl, ⟨rfl, fun _ => .refl _⟩, fun _ _ _ _ => id, fun _ => .inl rfl⟩

lemma mono (h : Trims T w w') (hs : T' ⊆ T) : Trims T' w w' := { h with held := fun p hp => h.held p (hs hp) }

lemma trans (one : Trims T w w') (two : Trims T w' w'') : Trims T w w'' where
 ud := two.ud.trans one.ud
 graph := one.graph.trans two.graph
 held p hp x d hm := two.held p hp x d (one.held p hp x d hm)
 lines i := by
  have := one.lines i
  have := two.lines i
  grind [Statement.dropTarget_eq]

end Trims

/-- The line of a place that nobody uses loses its target or goes; then it is not on the stack any more. -/
lemma Sound.replace (c : w.Sound T) (here : w.line? p = some s) (ht : s.target? = some x) (hu : w.uses x p = [])
  (fate : s.isCall ∧ o = some s.dropTarget ∧ p ∉ T ∨ ¬ s.isCall ∧ ¬ s.hasEffect ∧ o = none)
  (view : ∀ j, v.line? j = if j = p then o else w.line? j) (hg : w.graph.Thinned v.graph) (hud : v.ud = w.ud)
  (hdu : v.du = w.du) : v.Sound (T.erase p) ∧ Trims T w v := by
 have hs : v.srcs = w.srcs := by funext; rw [srcs, hud, srcs]
 have hw : v.uses = w.uses := by funext; rw [uses, hdu, uses]
 obtain ⟨listed, defined, leaving, nodup⟩ := c
 refine ⟨⟨?_, ?_, ?_, nodup.erase p⟩, hud, hg, fun _ _ x d => hw ▸ id, ?_⟩
 · intro i hi t line y hy e he
   rw [hw]
   rw [hs] at he
   grind [Statement.used_dropTarget]
 · intro i t line y hy e he hm
   rw [hw] at hm
   rw [hs] at he
   grind [Statement.used_dropTarget]
 · rw [hw]
   grind
 · grind

/-! ## The run -/

/-- The line on top of the stack is giving up its uses; those in `todo` are left. -/
structure Releasing (w : Woven) (p : Nat) (T : List Nat) (todo : Name -> Int -> Prop) (w' : Woven) : Prop where
 sound : w'.Sound (p :: T)
 trims : Trims T w w'
 left : ∀ x d, todo x d -> (p : Int) ∈ w'.uses x d

section

variable {P : List Nat} {depth : Nat}

/-- All lines are at places of the list, and the depth is enough for those that can still come onto the stack. -/
structure Deep (P : List Nat) (depth : Nat) (T : List Nat) (w : Woven) : Prop where
 within : ∀ i s, w.line? i = some s -> i ∈ P
 enough : P.length + 1 ≤ depth + T.length

lemma Deep.of_trims (deep : Deep P depth T w) (h : Trims T' w w') : Deep P depth T w' where
 within i s here := by
  rcases h.lines i with same | ⟨t, -, before, -⟩
  · exact deep.within i s (same ▸ here)
  · exact deep.within i t before
 enough := deep.enough

def Releases (P : List Nat) (depth : Nat) : Prop := ∀ (w : Woven) (p : Nat) (T : List Nat) (s : Statement),
 w.Sound (p :: T) -> w.line? p = some s -> (∀ x ∈ s.used, ∀ d ∈ w.srcs x p, (p : Int) ∈ w.uses x d) ->
 Deep P depth T w -> ∃ w', release depth w p = .ok w' ∧ Releasing w p T (fun _ _ => False) w'

lemma discard_spec (hr : Releases P depth) (c : w.Sound T) (hp : p ∉ T) (here : w.line? p = some s)
  (ht : s.target? = some x) (hu : w.uses x p = []) (deep : Deep P depth T w) :
  ∃ w', w.discard (release depth) p s = .ok w' ∧ w'.Sound T ∧ Trims T w w' := by
 rw [discard]
 split
 · next call =>
    have lost := c.replace here ht hu (.inl ⟨call, rfl, hp⟩) (v := w.setLine p s.dropTarget) (fun j => ?_)
     (.setLine _ p _) rfl rfl
    · rw [erase_of_not_mem hp] at lost
      exact ⟨_, rfl, lost⟩
    · rw [line?, setLine, Int.toNat_natCast, Graph.lineAt?_setLine, <- line?, here]
      rfl
 · next call =>
    split
    · exact ⟨w, rfl, c, .refl T w⟩
    · next effect =>
       have start : w.Sound (p :: T) := ⟨fun i hi => c.listed i (not_mem_of_not_mem_cons hi), c.defined,
        forall_mem_cons.mpr ⟨⟨s, x, here, ht, hu⟩, c.leaving⟩, nodup_cons.mpr ⟨hp, c.nodup⟩⟩
       obtain ⟨w', released, r⟩ := hr w p T s start here (c.listed p hp s here) deep
       obtain ⟨s', y, line, ht', hu'⟩ := r.sound.leaving p mem_cons_self
       -- It is no call, so it is still as it was.
       obtain rfl : s = s' := by
        have := r.trims.lines p
        grind
       have gone := r.sound.replace line ht' hu' (.inr ⟨call, effect, rfl⟩) (Graph.lineAt?_removeLine w'.graph p)
        (v := { w' with graph := w'.graph.removeLine p }) (.removeLine _ p) rfl rfl
       rw [erase_cons_head] at gone
       refine ⟨_, ?_, gone.1, r.trims.trans (gone.2.mono (subset_cons_self p T))⟩
       rw [Res.bind_of_ok released, removeLine, Int.toNat_natCast, line]

lemma giveUp_spec (hr : Releases P depth) (r : Releasing w p T todo w') (here : w'.line? p = some s) (hx : x ∈ s.used)
  (hd : d ∈ w'.srcs x p) (now : todo x d) (deep : Deep P depth (p :: T) w') :
  ∃ w'', giveUp (release depth) p x w' d = .ok w'' ∧
   Releasing w p T (fun y e => todo y e ∧ (y, e) ≠ (x, d)) w'' := by
 have hm := r.left x d now
 generalize hv : ({ w' with du := w'.du.update x d (·.erase p) } : Woven) = v
 have huses : ∀ y e, v.uses y e = if (y, e) = (x, d) then (w'.uses x d).erase p else w'.uses y e := by
  intro y e
  rw [<- hv, uses, Chain.of?_update]
  split <;> rfl
 have hg : v.line? = w'.line? := by rw [<- hv]; rfl
 have hs : v.srcs = w'.srcs := by rw [<- hv]; rfl
 have other : ∀ i, i ≠ p -> ∀ y e, (i : Int) ∈ v.uses y e ↔ (i : Int) ∈ w'.uses y e := by
  intro i ne y e
  have ne : i ≠ p := by simpa using ne
  grind
 obtain ⟨listed, defined, leaving, nodup⟩ := r.sound
 have c : v.Sound (p :: T) := by
  refine ⟨fun i hi t line y hy e he => ?_, fun i t line y hy e he hm => ?_, fun q hq => ?_, nodup⟩
  · exact (other i (ne_of_not_mem_cons hi) y e).mpr (listed i hi t (hg ▸ line) y hy e (hs ▸ he))
  · rw [hg]
    exact defined i t (hg ▸ line) y hy e (hs ▸ he) (by grind)
  · rw [hg]
    grind
 have trims : Trims T w' v := by
  refine ⟨by rw [<- hv], by rw [<- hv]; exact ⟨rfl, fun _ => .refl _⟩, fun q hq y e => (other q ?_ y e).mpr, fun i =>
   .inl (by rw [hg])⟩
  exact ne_of_mem_of_not_mem hq (nodup_cons.mp nodup).1
 have left : ∀ y e, todo y e ∧ (y, e) ≠ (x, d) -> (p : Int) ∈ v.uses y e := fun y e h => by
  rw [huses, if_neg h.2]
  exact r.left y e h.1
 have step : giveUp (release depth) p x w' d =
   if d ≥ 0 && (v.uses x d).isEmpty then v.lineAt d >>= v.discard (release depth) d else .ok v := by
  rw [giveUp, Chain.drop_eq hm, <- hv]
  rfl
 rw [step]
 split
 · next last =>
    obtain ⟨hn, he⟩ := Bool.and_eq_true_iff.mp last
    obtain ⟨n, rfl⟩ := Int.eq_ofNat_of_zero_le (of_decide_eq_true hn)
    obtain ⟨t, line, ht⟩ := defined p s here x hx n hd hm
    have out : n ∉ p :: T := by grind
    obtain ⟨u, ends, c', trims'⟩ := discard_spec hr c out (hg ▸ line) ht (isEmpty_iff.mp he) (deep.of_trims trims)
    refine ⟨u, ?_, c', r.trims.trans (trims.trans (trims'.mono (subset_cons_self p T))), fun y e hy => ?_⟩
    · rw [lineAt, Int.toNat_natCast, hg, line]
      exact ends
    · exact trims'.held p mem_cons_self y e (left y e hy)
 · exact ⟨v, rfl, c, r.trims.trans trims, left⟩

/-- By induction on the depth: every release that begins inside has one more line on its stack. -/
lemma release_spec (P : List Nat) (depth : Nat) : Releases P depth := by
 induction depth with
 | zero =>
  intro w p T s c _ _ deep
  have few : (p :: T).length ≤ P.length := by
   refine (c.nodup.subperm fun q hq => ?_).length_le
   obtain ⟨s, -, here, -⟩ := c.leaving q hq
   exact deep.within q s here
  have := deep.enough
  rw [length_cons] at few
  omega
 | succ depth ih =>
  intro w p T s c here listed deep
  have deep : Deep P depth (p :: T) w := ⟨deep.within, by have := deep.enough; rw [length_cons]; omega⟩
  rw [release, lineAt, Int.toNat_natCast, here]
  refine (Res.foldlM_ok (P := fun xs w' => xs.Nodup ∧ xs ⊆ s.used ∧
   Releasing w p T (fun x d => x ∈ xs ∧ d ∈ w.srcs x p) w') ?_ ⟨s.nodup_used, .refl _, c, .refl T w, fun x d h =>
    listed x h.1 d h.2⟩).imp fun w' h => ⟨h.1, { h.2.2.2 with left := nofun }⟩
  rintro w' x xs ⟨hn, hs, r⟩
  obtain ⟨hx, hn⟩ := nodup_cons.mp hn
  obtain ⟨own, hs⟩ := cons_subset.mp hs
  rw [srcs, r.trims.ud, <- srcs]
  refine (Res.foldlM_ok (P := fun ds w' => ds.Nodup ∧ ds ⊆ w.srcs x p ∧
   Releasing w p T (fun y e => y = x ∧ e ∈ ds ∨ y ∈ xs ∧ e ∈ w.srcs y p) w') ?_ ⟨nodup_eraseDups _, fun d =>
    mem_eraseDups.mp, { r with left := fun y d h => r.left y d (by grind [mem_eraseDups]) }⟩).imp
   fun w' h => ⟨h.1, hn, hs, { h.2.2.2 with left := fun y e hy => h.2.2.2.left y e (.inr hy) }⟩
  rintro w' d ds ⟨hd, sub, r⟩
  obtain ⟨hd, hds⟩ := nodup_cons.mp hd
  obtain ⟨now, sub⟩ := cons_subset.mp sub
  -- A call that has lost its target uses what it used before.
  obtain ⟨t, line, used⟩ : ∃ t, w'.line? p = some t ∧ t.used = s.used := by
   obtain ⟨t, -, line, -⟩ := r.sound.leaving p mem_cons_self
   have := r.trims.lines p
   grind [Statement.used_dropTarget]
  obtain ⟨u, ends, r'⟩ := giveUp_spec ih r line (used ▸ own) (by rwa [srcs, r.trims.ud, <- srcs])
   (.inl ⟨rfl, mem_cons_self⟩) (deep.of_trims r.trims)
  exact ⟨u, ends, hds, sub, { r' with left := fun y e hy => r'.left y e (by grind) }⟩

end

lemma eliminateAt_spec (c : w.Sound []) (loc : Nat) :
  ∃ w', w.eliminateAt loc = .ok w' ∧ w'.Sound [] ∧ Trims [] w w' := by
 have kept : ∃ w', (.ok w : Res Woven) = .ok w' ∧ w'.Sound [] ∧ Trims [] w w' := ⟨w, rfl, c, .refl [] w⟩
 rw [eliminateAt]
 split
 · exact kept
 · next s here =>
    split
    · exact kept
    · next x ht =>
       split
       · exact kept
       · next unused =>
          have hu : w.uses x loc = [] := by rw [uses, Option.not_isSome_iff_eq_none.mp unused, Option.getD_none]
          refine discard_spec (release_spec (w.graph.order.flatMap w.graph.places) _) c not_mem_nil here ht hu
           ⟨fun i s => Graph.mem_places, ?_⟩
          have all : (w.graph.order.flatMap w.graph.places).length = w.size := by
           simp only [length_flatMap, Graph.places, length_map]
           rfl
          omega

/-- If the uses of what is used are listed, and lines that write it are there, the run ends. A line that goes is no call,
    changes nothing else and writes what no line that is left uses; a call that loses its target is used by none
    either; and what the lines that are left use is still written. -/
theorem eliminate_dead (w : Woven)
  (listed : ∀ i s, w.line? i = some s -> ∀ x ∈ s.used, ∀ d ∈ w.srcs x i, (i : Int) ∈ w.uses x d)
  (defined : ∀ i s, w.line? i = some s -> ∀ x ∈ s.used, ∀ d : Nat, (d : Int) ∈ w.srcs x i ->
   ∃ t, w.line? d = some t ∧ t.target? = some x) :
  ∃ w', w.eliminate = .ok w' ∧ w'.ud = w.ud ∧ w.graph.Thinned w'.graph ∧
   (∀ i, w'.line? i = w.line? i ∨ ∃ s x, w.line? i = some s ∧ s.target? = some x ∧
    (s.isCall ∧ w'.line? i = some s.dropTarget ∨ ¬ s.isCall ∧ ¬ s.hasEffect ∧ w'.line? i = none) ∧
    ∀ j t, w'.line? j = some t -> x ∈ t.used -> (i : Int) ∉ w'.srcs x j) ∧
   ∀ j t, w'.line? j = some t -> ∀ x ∈ t.used, ∀ d : Nat, (d : Int) ∈ w'.srcs x j ->
    ∃ s, w'.line? d = some s ∧ s.target? = some x := by
 have start : w.Sound [] := ⟨fun i _ => listed i, fun i s here x hx d hd _ => defined i s here x hx d hd, nofun, nodup_nil⟩
 have step : ∀ v (ls : List Nat), v.Sound [] -> Trims [] w v ->
   ∃ v', ls.foldlM eliminateAt v = .ok v' ∧ v'.Sound [] ∧ Trims [] w v' := by
  intro v ls c trims
  refine Res.foldlM_ok (P := fun _ v => v.Sound [] ∧ Trims [] w v) (fun v loc _ ⟨c, trims⟩ => ?_) ⟨c, trims⟩
  obtain ⟨v', ends, c', trims'⟩ := eliminateAt_spec c loc
  exact ⟨v', ends, c', trims.trans trims'⟩
 obtain ⟨w', ends, c, trims⟩ := Res.foldlM_ok (P := fun _ v => v.Sound [] ∧ Trims [] w v)
  (fun v n _ ⟨c, trims⟩ => step v ((v.graph.block n).lines.map Line.loc) c trims) ⟨start, .refl [] w⟩
 have still := fun j t here x hx d hd => c.defined j t here x hx d hd (c.listed j not_mem_nil t here x hx d hd)
 refine ⟨w', ends, trims.ud, trims.graph, fun i => ?_, still⟩
 by_cases same : w'.line? i = w.line? i
 · exact .inl same
 · obtain ⟨s, x, here, ht, after⟩ := (trims.lines i).resolve_left same
   refine .inr ⟨s, x, here, ht, after, fun j t line hx hd => ?_⟩
   obtain ⟨s', line', ht'⟩ := still j t line x hx i hd
   rcases after with ⟨-, call⟩ | ⟨-, -, gone⟩
   · cases call.symm.trans line'
     exact same (by rw [call, here, Statement.dropTarget_eq ht'])
   · cases gone.symm.trans line'

/-- The graph `choosing` after `v5 = 3; v6 = v5;`. -/
def wasting : Woven :=
 let g := choosing [.assign (.named (.reg 5)) true (.leaf (.constant ⟨.int 3, "I", .int 3⟩)),
  .assign (.named (.reg 6)) true (.leaf (.named (.reg 5)))]
 ⟨g, (chains g [0, 1]).1, (chains g [0, 1]).2⟩

/-- Both lines go, the first because of the second. -/
theorem wasting_eliminated : wasting.graph.places 0 = [0, 1, 2] ∧
  ∃ w', wasting.eliminate = .ok w' ∧ w'.graph.places 0 = [2] ∧ wasting.graph.Thinned w'.graph := by
 have written : ∀ i ∈ wasting.graph.order.flatMap wasting.graph.places,
   ∀ x ∈ ((wasting.line? i).map Statement.used).getD [], ∀ d ∈ wasting.srcs x i, 0 ≤ d ->
    (wasting.line? d.toNat).bind Statement.target? = some x := by decide +kernel
 have left : wasting.eliminate.toOption.map (·.graph.places 0) = some [2] := by decide +kernel
 have listed : ∀ i x d, d ∈ wasting.srcs x i -> i ∈ wasting.uses x d := fun i x d hd => by
  refine count_pos_iff.mp ?_
  rw [uses, wasting, chains, Chain.count_uses (nodup_definitions _ _ _)]
  exact count_pos_iff.mpr hd
 obtain ⟨w', ends, -, thinned, -⟩ := eliminate_dead wasting (fun i _ _ x _ d => listed i x d)
  fun i s here x hx d hd => Option.bind_eq_some_iff.mp
   (written i (Graph.mem_places here) x (by rwa [here]) d hd (Int.natCast_nonneg d))
 rw [ends] at left
 exact ⟨by decide +kernel, w', ends, Option.some.inj left, thinned⟩

end Woven

end DexLens.Source
