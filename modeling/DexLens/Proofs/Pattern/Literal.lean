import DexLens.Pattern.Matcher
import Mathlib.Data.List.Infix
import Mathlib.Data.List.Induction

/-! # Literal patterns

It is found at the start of a text if the text begins with it, and within a text wherever it stands there.
-/

namespace DexLens.Pattern

open List Node

deriving instance DecidableEq for Member, Node

def literal (cs : List Char) : Node := cs.foldl (fun n c => .seq n (.char c false)) .empty

theorem literal_append (cs : List Char) (c : Char) : literal (cs ++ [c]) = .seq (literal cs) (.char c false) :=
 foldl_concat _ _ _ _

theorem parts_literal (cs : List Char) : (literal cs).parts = 2 * cs.length + 1 := by
 induction cs using reverseRecOn with
 | nil => rfl
 | append_singleton cs c ih =>
  rw [literal_append, parts, ih, length_append]
  rfl

theorem run_literal (he : cs.length < fuel) (s : Spot) (k : Next) : (literal cs).run fuel s k =
   if cs <+: s.ahead then k ⟨cs.reverse ++ s.behind, s.ahead.drop cs.length, s.caught⟩ else none := by
 induction cs using reverseRecOn generalizing fuel k with
 | nil =>
  obtain ⟨fuel, rfl⟩ := Nat.exists_eq_succ_of_ne_zero he.ne'
  simp [literal, run]
 | append_singleton cs c ih =>
  obtain ⟨fuel, rfl⟩ := Nat.exists_eq_succ_of_ne_zero (Nat.ne_zero_of_lt he)
  rw [length_append, length_singleton] at he
  obtain ⟨last, rfl⟩ : ∃ last, fuel = last + 1 := Nat.exists_eq_succ_of_ne_zero (by omega)
  rw [literal_append, run, ih (by omega)]
  by_cases hf : cs <+: s.ahead
  · obtain ⟨rest, same⟩ := hf
    cases rest with
    | nil =>
     have hl : ¬ cs ++ [c] <+: cs := fun hw => absurd hw.length_le (by simp)
     simp [run, Spot.step, <- same, hl]
    | cons d rest => by_cases next : c = d <;> simp [run, Spot.step, <- same, next, prefix_append_right_inj]
  · rw [if_neg hf, if_neg fun hw => hf ((prefix_append cs [c]).trans hw)]

theorem length_lt_fuelFor (cs : List Char) (n : Nat) : cs.length < fuelFor (literal cs) n := by
 have hl : 2 * ((literal cs).parts + 2) ≤ (n + 2) * ((literal cs).parts + 2) := Nat.mul_le_mul_right _ (by omega)
 rw [parts_literal] at hl
 rw [fuelFor, parts_literal]
 omega

theorem matchesStart_literal (cs : List Char) (t : String) : matchesStart (literal cs) t = decide (cs <+: t.toList) := by
 rw [matchesStart, run_literal (length_lt_fuelFor cs _)]
 by_cases hf : cs <+: t.toList <;> simp [hf]

theorem searchFrom_literal (he : cs.length < fuel) (behind ahead : List Char) :
  searchFrom (literal cs) fuel behind ahead = decide (cs <:+: ahead) := by
 induction ahead generalizing behind with
 | nil =>
  rw [searchFrom, run_literal he]
  by_cases hf : cs = [] <;> simp [hf]
 | cons c ahead ih =>
  rw [searchFrom, run_literal he, ih]
  by_cases hf : cs <+: c :: ahead <;> simp [hf, infix_cons_iff]

theorem matchesWithin_literal (cs : List Char) (t : String) :
  matchesWithin (literal cs) t = decide (cs <:+: t.toList) := searchFrom_literal (length_lt_fuelFor cs _) _ _

end DexLens.Pattern
