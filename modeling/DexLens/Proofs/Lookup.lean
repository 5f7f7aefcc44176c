import Mathlib

/-! # Looking entries up

Tables are lists of keys with their values, and the first entry of a key counts.
-/

namespace DexLens.Lookup

open List

section

variable {κ β : Type} [BEq κ] [LawfulBEq κ]

lemma nodup_eraseDups : ∀ ks : List κ, ks.eraseDups.Nodup
 | [] => by simp
 | k :: ks => by
  rw [eraseDups_cons, nodup_cons]
  exact ⟨by simp, nodup_eraseDups _⟩
termination_by ks => ks.length
decreasing_by exact Nat.lt_succ_of_le (length_filter_le _ ks)

lemma split_at {c : κ} (hx : c ∉ xs) (hy : c ∉ ys) (same : xs ++ c :: us = ys ++ c :: vs) : xs = ys ∧ us = vs := by
 have hs {xs us} (free : c ∉ xs) : (xs ++ c :: us).takeWhile (· != c) = xs := by
  have all : ∀ d ∈ xs, (d != c) = true := fun d hm => bne_iff_ne.mpr fun own => free (own ▸ hm)
  rw [takeWhile_append_of_pos all]
  simp
 obtain rfl : xs = ys := by rw [<- hs hx, same, hs hy]
 exact ⟨rfl, (cons.inj (append_cancel_left same)).2⟩

lemma mem_including {xs : List κ} : y ∈ (if x ∈ xs then xs else xs ++ [x]) ↔ y ∈ xs ∨ y = x := by
 split
 · next hk => exact ⟨.inl, fun h => h.elim id (· ▸ hk)⟩
 · simp

lemma eq_none_iff {t : List (κ × β)} : t.lookup k = none ↔ ¬ t.any (·.1 == k) = true := by
 simp only [lookup_eq_none_iff, any_eq_true, not_exists, not_and, bne_iff_ne, beq_iff_eq]
 exact forall₂_congr fun _ _ => ne_comm

lemma eq_none_of_not_mem {t : List (κ × β)} (h : k ∉ t.map (·.1)) : t.lookup k = none := eq_none_iff.mpr (by simpa using h)

lemma cons_of_ne (h : l ≠ k) (v : β) (t : List (κ × β)) : lookup l ((k, v) :: t) = t.lookup l := by
 rw [lookup_cons, beq_eq_false_iff_ne.mpr h]

lemma filterMap_of_key {xs : List α} {k : α -> κ} {g : α -> Option (κ × β)} (own : ∀ {x e}, g x = some e -> e.1 = k x)
  (one : ∀ x ∈ xs, ∀ y ∈ xs, k x = k y -> g x = g y) (hm : x ∈ xs) :
  (xs.filterMap g).lookup (k x) = (g x).map (·.2) := by
 cases hl : (xs.filterMap g).lookup (k x) with
 | none =>
  cases hg : g x with
  | none => rfl
  | some e =>
   have hn := lookup_eq_none_iff.mp hl e (mem_filterMap.mpr ⟨x, hm, hg⟩)
   exact absurd (own hg).symm (bne_iff_ne.mp hn)
 | some v =>
  obtain ⟨l, r, split, -⟩ := lookup_eq_some_iff.mp hl
  obtain ⟨y, hy, hg⟩ := mem_filterMap.mp (split ▸ mem_append_right l mem_cons_self : (k x, v) ∈ xs.filterMap g)
  rw [one x hm y hy (own hg), hg]
  rfl

variable [DecidableEq κ]

lemma map_of_key (t : List (κ × β)) (k : κ) (f : β -> β) (l : κ) :
  (t.map fun p => if p.1 == k then (p.1, f p.2) else p).lookup l = if l = k then (t.lookup l).map f else t.lookup l := by
 induction t with
 | nil => simp
 | cons p t ih => by_cases own : p.1 = k <;> by_cases same : l = p.1 <;> grind

lemma filter_of_key (t : List (κ × β)) (k l : κ) : (t.filter (·.1 != k)).lookup l = if l = k then none else t.lookup l := by
 induction t with
 | nil => simp
 | cons p t ih => by_cases own : p.1 = k <;> by_cases same : l = p.1 <;> grind

lemma concat (hf : t.lookup k = none) (v : β) (l : κ) : (t ++ [(k, v)]).lookup l = if l = k then some v else t.lookup l := by
 rw [lookup_append]
 by_cases same : l = k
 · simp [same, hf]
 · simp [same, cons_of_ne]

lemma write (t : List (κ × β)) (k : κ) (f : β -> β) (new : β) (l : κ) :
  (if t.any (·.1 == k) then t.map fun p => if p.1 == k then (k, f p.2) else p else t ++ [(k, new)]).lookup l =
   if l = k then some (((t.lookup k).map f).getD new) else t.lookup l := by
 have same : (fun p : κ × β => if p.1 == k then (k, f p.2) else p) = fun p => if p.1 == k then (p.1, f p.2) else p := by
  funext p
  split
  · next own => rw [beq_iff_eq.mp own]
  · rfl
 split
 · next hk =>
    rw [same, map_of_key]
    split
    · next here =>
       subst here
       cases hn : t.lookup l with
       | none => exact absurd hk (eq_none_iff.mp hn)
       | some v => rfl
    · rfl
 · next hu =>
    have hf := eq_none_iff.mpr hu
    rw [concat hf, hf]
    rfl

lemma eq_some_iff_mem {t : List (κ × β)} (hn : (t.map (·.1)).Nodup) : t.lookup k = some v ↔ (k, v) ∈ t := by
 induction t with
 | nil => simp
 | cons p t ih =>
  rw [map_cons, nodup_cons] at hn
  obtain ⟨l, w⟩ := p
  by_cases same : k = l
  · subst same
    have ha : (k, v) ∉ t := fun hm => hn.1 (mem_map.mpr ⟨_, hm, rfl⟩)
    simp [ha, eq_comm]
  · simp [same, lookup_cons, beq_eq_false_iff_ne.mpr same, ih hn.2]

lemma mem_getD_iff {t : List (κ × List β)} (hn : (t.map (·.1)).Nodup) :
  e ∈ (t.lookup k).getD [] ↔ ∃ es, (k, es) ∈ t ∧ e ∈ es := by
 simp only [<- eq_some_iff_mem hn]
 cases t.lookup k <;> simp

lemma filterMap_flatMap {t : List (κ × β)} (hn : (t.map (·.1)).Nodup) (k : κ) (flat : β -> List ρ)
  (tag : κ -> ρ -> σ) (pick : σ -> Option ρ) (hp : ∀ l x, pick (tag l x) = if l = k then some x else none) :
  (t.flatMap fun e => (flat e.2).map (tag e.1)).filterMap pick = ((t.lookup k).map flat).getD [] := by
 induction t with
 | nil => rfl
 | cons e t ih =>
  obtain ⟨l, v⟩ := e
  rw [map_cons, nodup_cons] at hn
  rw [flatMap_cons, filterMap_append, filterMap_map, ih hn.2]
  by_cases own : l = k
  · subst own
    simp [hp, eq_none_of_not_mem hn.1]
  · rw [cons_of_ne (symm own)]
    simp [hp, own]

end

/-! ## Amending entries -/

variable {κ β : Type} [BEq κ] [LawfulBEq κ] [DecidableEq κ] {P : β -> Prop}

/-- Change the entry of a key, or put a new one at the end if there is none. -/
def amend (key : β -> κ) (xs : List β) (k : κ) (f : β -> β) (new : β) : List β :=
 if xs.any (key · == k) then xs.map fun x => if key x == k then f x else x else xs ++ [new]

variable {key : β -> κ} {xs : List β} {k : κ} {f : β -> β} {new : β}

lemma find?_eq_some_iff_mem (hn : (xs.map key).Nodup) : xs.find? (key · == k) = some x ↔ x ∈ xs ∧ key x = k := by
 constructor
 · intro hf
   exact ⟨mem_of_find?_eq_some hf, by simpa using find?_some hf⟩
 · rintro ⟨hm, rfl⟩
   cases hf : xs.find? (key · == key x) with
   | none => exact absurd (beq_self_eq_true (key x)) (find?_eq_none.mp hf x hm)
   | some x' =>
    have same : key x' = key x := by simpa using find?_some hf
    rw [inj_on_of_nodup_map hn (mem_of_find?_eq_some hf) hm same]

lemma amend_of_mem (hk : k ∈ xs.map key) : amend key xs k f new = xs.map fun x => if key x = k then f x else x := by
 rw [amend, if_pos (by simpa using hk)]
 simp only [beq_iff_eq]

lemma amend_of_not_mem (hu : k ∉ xs.map key) : amend key xs k f new = xs ++ [new] := by rw [amend, if_neg (by simpa using hu)]

lemma nodup_amend (hn : (xs.map key).Nodup) (same : ∀ x, key x = k -> key (f x) = k) (own : key new = k) :
  ((amend key xs k f new).map key).Nodup := by
 by_cases hk : k ∈ xs.map key
 · have keys : (xs.map fun x => if key x = k then f x else x).map key = xs.map key := by
    rw [map_map]
    refine map_congr_left fun x _ => ?_
    by_cases here : key x = k
    · simp [here, same x here]
    · simp [here]
   rwa [amend_of_mem hk, keys]
 · rw [amend_of_not_mem hk, map_append, map_singleton, own, <- concat_eq_append]
   exact hn.concat hk

lemma forall_mem_amend (old : ∀ x ∈ xs, P x) (hc : ∀ x ∈ xs, key x = k -> P (f x)) (hf : P new) :
  ∀ y ∈ amend key xs k f new, P y := by
 intro y hm
 by_cases hk : k ∈ xs.map key
 · rw [amend_of_mem hk] at hm
   obtain ⟨x, hi, rfl⟩ := mem_map.mp hm
   split
   · exact hc x hi ‹_›
   · exact old x hi
 · rw [amend_of_not_mem hk] at hm
   rcases mem_append.mp hm with hi | hs
   · exact old y hi
   · rwa [mem_singleton.mp hs]

lemma exists_mem_amend (hc : ∀ x ∈ xs, key x = k -> (P (f x) ↔ P x ∨ e)) (hf : P new ↔ e) :
  (∃ y ∈ amend key xs k f new, P y) ↔ (∃ x ∈ xs, P x) ∨ e := by
 by_cases hk : k ∈ xs.map key
 · rw [amend_of_mem hk]
   constructor
   · rintro ⟨y, hm, hh⟩
     obtain ⟨x, hi, rfl⟩ := mem_map.mp hm
     split at hh
     · exact ((hc x hi ‹_›).mp hh).imp_left fun hh => ⟨x, hi, hh⟩
     · exact .inl ⟨x, hi, hh⟩
   · rintro (⟨x, hi, hh⟩ | hh)
     · refine ⟨_, mem_map_of_mem hi, ?_⟩
       split
       · exact (hc x hi ‹_›).mpr (.inl hh)
       · exact hh
     · obtain ⟨x, hi, own⟩ := mem_map.mp hk
       refine ⟨_, mem_map_of_mem hi, ?_⟩
       rw [if_pos own]
       exact (hc x hi own).mpr (.inr hh)
 · rw [amend_of_not_mem hk]
   simp [or_and_right, exists_or, hf]

lemma flatMap_amend {flat : β -> List ρ} (hn : (xs.map key).Nodup)
  (hc : ∀ x ∈ xs, key x = k -> (flat (f x)).Perm (flat x ++ [e])) (hf : flat new = [e]) :
  ((amend key xs k f new).flatMap flat).Perm (xs.flatMap flat ++ [e]) := by
 by_cases hk : k ∈ xs.map key
 · rw [amend_of_mem hk]
   induction xs with
   | nil => simp at hk
   | cons x xs ih =>
    obtain ⟨own, hc⟩ := forall_mem_cons.mp hc
    rw [map_cons, nodup_cons] at hn
    rw [map_cons, flatMap_cons, flatMap_cons]
    by_cases here : key x = k
    · -- No other entry has the key.
      have rest : (xs.map fun x => if key x = k then f x else x) = xs := by
       refine (map_congr_left fun y hi => if_neg ?_).trans (map_id' xs)
       rintro same
       exact hn.1 (here ▸ same ▸ mem_map_of_mem hi)
      rw [if_pos here, rest]
      refine ((own here).append_right _).trans ?_
      rw [append_assoc, append_assoc]
      exact perm_append_comm.append_left _
    · rw [if_neg here, append_assoc]
      exact (ih hn.2 hc (by simpa [Ne.symm here] using hk)).append_left _
 · rw [amend_of_not_mem hk, flatMap_append, flatMap_singleton, hf]

end DexLens.Lookup
