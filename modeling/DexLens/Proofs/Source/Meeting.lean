import Mathlib
import DexLens.Source.Net

/-! # Where two nodes meet

A table of dominators is a tree: a node hangs below its dominator. Climbing from two nodes, always from the one with
the greater number, leads to the lowest node above both.
-/

namespace DexLens.Source.Dominators

variable {t : Dominators} {num : Nat -> Nat} {root : Nat}

/-- A node is above all nodes that hang below it, and above itself. -/
def Above (t : Dominators) : Nat -> Nat -> Prop := Relation.ReflTransGen fun p n => t.lookup n = some (some p)

/-- The part of a table that hangs below a root, with a numbering of its nodes that grows downwards. -/
structure Rooted (t : Dominators) (num : Nat -> Nat) (root : Nat) : Prop where
 top : t.lookup root = some none
 grows : ∀ n p, t.Above root n -> t.lookup n = some (some p) -> num p < num n
 apart : ∀ a b, t.Above root a -> t.Above root b -> num a = num b -> a = b

/-- The lowest of the nodes above two nodes. -/
def Nearest (t : Dominators) (c a b : Nat) : Prop :=
 (t.Above c a ∧ t.Above c b) ∧ ∀ d, t.Above d a -> t.Above d b -> t.Above d c

lemma Nearest.symm (hc : t.Nearest c a b) : t.Nearest c b a := ⟨hc.1.symm, fun d hb ha => hc.2 d ha hb⟩

namespace Rooted

variable (tree : t.Rooted num root)

include tree

lemma above (ha : t.Above root n) (hd : t.Above d n) : t.Above root d := by
 induction hd with
 | refl => exact ha
 | @tail p n _ up ih =>
  refine ih ?_
  rcases Relation.ReflTransGen.cases_tail ha with rfl | ⟨q, hq, up'⟩
  · rw [tree.top] at up
    cases up
  · obtain rfl : q = p := by simpa using up'.symm.trans up
    exact hq

lemma num_le (ha : t.Above root n) (hd : t.Above d n) : num d ≤ num n := by
 induction hd with
 | refl => exact le_rfl
 | tail hd up ih => exact (ih (tree.above ha (.single up))).trans (tree.grows _ _ ha up).le

/-- A node that is not the topmost one hangs below another one, and what is above both is above that one. -/
lemma climb (hb : t.Above root b) (less : num a < num b) (ha : t.Above root a) : ∃ p, t.lookup b = some (some p) ∧
  t.Above root p ∧ num p < num b ∧ ∀ c, t.Nearest c a p -> t.Nearest c a b := by
 rcases Relation.ReflTransGen.cases_tail hb with rfl | ⟨p, hp, up⟩
 · exact absurd (tree.num_le ha ha) less.not_ge
 · refine ⟨p, up, hp, tree.grows b p hb up, fun c near => ⟨⟨near.1.1, near.1.2.tail up⟩, fun d hda hdb => ?_⟩⟩
   rcases Relation.ReflTransGen.cases_tail hdb with rfl | ⟨q, hq, up'⟩
   · exact absurd (tree.num_le ha hda) less.not_ge
   · obtain rfl : q = p := by simpa using up'.symm.trans up
     exact near.2 d hda hq

lemma meet_nearest (ha : t.Above root a) (hb : t.Above root b) (hf : num a + num b < fuel) :
  ∃ c, meet num t fuel (some a) (some b) = .ok (some c) ∧ t.Nearest c a b := by
 induction fuel generalizing a b with
 | zero => omega
 | succ fuel ih =>
  by_cases same : a = b
  · subst same
    exact ⟨a, by simp [meet, pure, Except.pure], ⟨.refl, .refl⟩, fun d hd _ => hd⟩
  rcases lt_trichotomy (num a) (num b) with less | equal | more
  · obtain ⟨p, up, hp, lower, near⟩ := tree.climb hb less ha
    obtain ⟨c, hc, hn⟩ := ih ha hp (by omega)
    refine ⟨c, ?_, near c hn⟩
    simp [meet, same, less, of, up, Res.opt, hc, bind, Except.bind]
  · exact absurd (tree.apart a b ha hb equal) same
  · obtain ⟨p, up, hp, lower, near⟩ := tree.climb ha more hb
    obtain ⟨c, hc, hn⟩ := ih hp hb (by omega)
    refine ⟨c, ?_, (near c hn.symm).symm⟩
    simp [meet, same, more, more.not_gt, of, up, Res.opt, hc, bind, Except.bind]

end Rooted

end DexLens.Source.Dominators
