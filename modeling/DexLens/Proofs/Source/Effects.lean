import DexLens.Proofs.Lookup
import DexLens.Source.Statement

/-! # Effects inside statements

Terms put in the place of registers bring calls and filled arrays to any depth of a statement. A statement tells of
them only if nothing but operators with two sides stands around them.
-/

namespace DexLens.Source

open List Lookup

namespace Op

def operands : Op -> List Name
 | newObject _ | staticField _ _ _ => []
 | call _ _ _ a _ _ args | filledArray a _ args => a :: args
 | element a b _ | binary _ _ a b _ => [a, b]
 | length a | newArray a _ | unary _ a | cast _ _ a | field a _ _ _ => [a]

/-- Does the operation change anything by itself? -/
def acts : Op -> Bool
 | call _ _ _ _ _ _ _ | filledArray _ _ _ => true
 | _ => false

def isBinary : Op -> Bool
 | binary _ _ _ _ _ => true
 | _ => false

end Op

namespace Term

lemma operand_cons (m n : Name) (x : Term) (xs : List (Name × Term)) :
  operand ((m, x) :: xs) n = if n = m then x else operand xs n := by
 unfold operand
 split_ifs with hn
 · simp [hn]
 · rw [cons_of_ne hn]

/-- An operation stands in a term, below others that are listed from the outside. -/
inductive Holds : Term -> List Op -> Op -> Prop
 | here : Holds (node op xs) [] op
 | within (hn : n ∈ op.operands) (h : Holds (operand xs n) above o) : Holds (node op xs) (op :: above) o

/-- Something that acts is reached through operators with two sides alone. -/
def Shows (t : Term) : Prop := ∃ above op, t.Holds above op ∧ op.acts ∧ ∀ o ∈ above, o.isBinary

lemma shows_node : (node op xs).Shows ↔ op.acts ∨ op.isBinary ∧ ∃ n ∈ op.operands, (operand xs n).Shows := by
 constructor
 · rintro ⟨_, o, h | ⟨hn, h⟩, ha, hb⟩
   · exact .inl ha
   · rw [forall_mem_cons] at hb
     exact .inr ⟨hb.1, _, hn, _, o, h, ha, hb.2⟩
 · rintro (ha | ⟨hb, n, hn, above, o, h, ha, hs⟩)
   · exact ⟨[], op, .here, ha, by simp⟩
   · exact ⟨op :: above, o, .within hn h, ha, forall_mem_cons.mpr ⟨hb, hs⟩⟩

/-- What is found for a name is what is found in its operand. -/
lemma of_all [Inhabited α] {find : Term -> α} {all : List (Name × Term) -> Found α} (nil : all [] = [])
  (cons : ∀ m x xs, all ((m, x) :: xs) = (m, find x) :: all xs) (none : find (operand [] n) = default)
  (xs : List (Name × Term)) : (all xs).of n = find (operand xs n) := by
 induction xs with
 | nil =>
  rw [nil, none]
  rfl
 | cons x xs ih =>
  rw [operand_cons, apply_ite find, <- ih, cons, Found.of]
  split_ifs with hn
  · simp [hn]
  · rw [cons_of_ne hn, Found.of]

lemma of_hasEffectAll (xs : List (Name × Term)) (n : Name) : (hasEffectAll xs).of n = (operand xs n).hasEffect :=
 of_all rfl (fun _ _ _ => rfl) rfl xs

mutual

lemma hasEffect_iff : ∀ t : Term, t.hasEffect = true ↔ t.Shows
 | leaf l => ⟨nofun, nofun⟩
 | node op xs => by
  rw [shows_node, hasEffect]
  cases op <;> simp [Op.hasEffect, Op.acts, Op.isBinary, Op.operands, of_hasEffectAll,
   operand_hasEffect_iff xs]

lemma operand_hasEffect_iff : ∀ (xs : List (Name × Term)) (n : Name),
  (operand xs n).hasEffect = true ↔ (operand xs n).Shows
 | [], _ => ⟨nofun, nofun⟩
 | (m, x) :: xs, n => by
  rw [operand_cons]
  split_ifs
  · exact hasEffect_iff x
  · exact operand_hasEffect_iff xs n

end

end Term

namespace Statement

open Term

/-- Does it store a value, which it tells? -/
def stores : Statement -> Bool
 | act (.store _ _ _) _ | act (.putStatic _ _ _) _ | act (.putField _ _ _) _ => true
 | _ => false

def fills : Statement -> Bool
 | act (.fill _ _) _ => true
 | _ => false

/-- The terms of a statement, and whether it asks them what they do. -/
def parts : Statement -> List (Term × Bool)
 | assign _ _ v => [(v, true)]
 | act a xs =>
  let of (n : Name) := (operand xs n, false)
  match a with
  | .moveResult _ v => [(operand xs v, true)]
  | .move _ v | .putStatic v _ _ | .choose v | .compareZero _ _ v | .catching v | .throwing v | .fill v _ => [of v]
  | .giveBack v => v.toList.map of
  | .store v arr i => [of v, of arr, of i]
  | .putField a b _ | .compare _ a b => [of a, of b]
  | .nothing => []

/-- It stores, fills an array, calls or makes a filled array at any depth. -/
def Acts (s : Statement) : Prop := s.stores ∨ s.fills ∨ ∃ p ∈ s.parts, ∃ above op, p.1.Holds above op ∧ op.acts

theorem effect_told_iff (s : Statement) : (s.hasEffect = true ↔ s.stores ∨ ∃ p ∈ s.parts, p.2 ∧ p.1.Shows) ∧
  (s.hasEffect = true -> s.Acts) := by
 have he : s.hasEffect = true ↔ s.stores ∨ ∃ p ∈ s.parts, p.2 ∧ p.1.Shows := by
  cases s with
  | assign l d v => simp [hasEffect, stores, parts, hasEffect_iff]
  | act a xs => cases a <;> simp [hasEffect, stores, parts, hasEffect_iff]
 refine ⟨he, fun hs => ?_⟩
 obtain hs | ⟨p, hp, -, above, op, h, ha, -⟩ := he.mp hs
 · exact .inl hs
 · exact .inr (.inr ⟨p, hp, above, op, h, ha⟩)

/-- A call that has taken the place of a negated register is not told. -/
theorem negated_call_untold :
  let call := node (.call true "B" "c" (.made "cB") "int" [] []) [(.made "cB", leaf (.className "B"))]
  let negation (t : Term) := assign (.named (.reg 1)) true (node (.unary "-" (.reg 0)) [(.reg 0, t)])
  (negation (leaf (.named (.reg 0)))).modify (.reg 0) call = .ok (negation call) ∧
   (negation call).Acts ∧ (negation call).hasEffect = false := by
 exact ⟨by rfl, .inr (.inr ⟨_, mem_singleton_self _, _, _, .within (mem_singleton_self _) .here, rfl⟩), by rfl⟩

end Statement

end DexLens.Source
