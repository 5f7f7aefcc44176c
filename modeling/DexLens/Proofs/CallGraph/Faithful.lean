import DexLens.CallGraph.Gexf
import DexLens.Markup.Reader
import DexLens.Proofs.CallGraph.Threads

/-! # Names in exported call graphs

Labels and attributes stand between quotation marks, with the characters spelled out that mean something in markup.
The quotation mark is not among them.
-/

namespace DexLens.Markup

open List Nat String

def spelled (c : Char) : List Char :=
 if c = '&' then "&amp;".toList else if c = '<' then "&lt;".toList else if c = '>' then "&gt;".toList else [c]

lemma toList_escape (s : String) : (escape s).toList = s.toList.flatMap spelled := by
 unfold escape
 rw [foldl_eq_foldl_toList]
 suffices h : ∀ (cs : List Char) acc, (cs.foldl (fun acc c =>
   if c = '&' then acc ++ "&amp;" else if c = '<' then acc ++ "&lt;" else if c = '>' then acc ++ "&gt;"
   else acc.push c) acc).toList = acc.toList ++ cs.flatMap spelled from h _ _
 intro cs
 induction cs with
 | nil => simp
 | cons c cs ih =>
  intro acc
  rw [foldl_cons, ih, flatMap_cons, <- List.append_assoc]
  congr 1
  unfold spelled
  split_ifs <;> simp

def IsPlain (c : Char) : Prop := c ≠ '"' ∧ isAllowed c.toNat ∧ (isBlank c -> c = ' ')

instance : DecidablePred IsPlain := fun _ => inferInstanceAs (Decidable (_ ∧ _))

/-- A value without quotation marks, in characters that are allowed, and with no blanks but spaces. -/
def Plain (s : String) : Prop := ∀ c ∈ s.toList, IsPlain c

/-- What is read of a value that stands before a quotation mark and some text, and the text that is left. -/
def readBack (value : String) (t : List Char) : Option (String × List Char) :=
 value? '"' ((value.toList ++ '"' :: t).length + 1) [] (value.toList ++ '"' :: t)

lemma value?_prefix (hr : value? q n acc cs = some (v, t)) : acc.reverse <+: v.toList := by
 have fewer {c : Char} {acc : List Char} (h : (c :: acc).reverse <+: v.toList) : acc.reverse <+: v.toList :=
  (reverse_cons ▸ prefix_append _ _).trans h
 induction n generalizing acc cs with
 | zero => cases hr
 | succ n ih =>
  cases cs with
  | nil => cases hr
  | cons c cs =>
   rw [value?] at hr
   split_ifs at hr
   · cases hr
     simp
   · split at hr
     · exact fewer (ih hr)
     · cases hr
   · exact fewer (ih hr)
   · exact fewer (ih hr)

lemma value?_spelled (hp : IsPlain c) (n : Nat) (acc t : List Char) :
  value? '"' (n + 1) acc (spelled c ++ t) = value? '"' n (c :: acc) t := by
 unfold spelled
 split_ifs with amp lt gt
 · subst amp
   rfl
 · subst lt
   rfl
 · subst gt
   rfl
 · rw [singleton_append, value?, if_neg hp.1, if_neg lt, if_neg amp]
   split_ifs with blank allowed
   · rw [hp.2.2 blank]
   · rfl
   · exact absurd hp.2.1 allowed

lemma value?_eq_some (acc t : List Char) (he : (s.flatMap spelled).length < n) :
  value? '"' n acc (s.flatMap spelled ++ '"' :: t) = some (ofList (acc.reverse ++ s), t) ↔ ∀ c ∈ s, IsPlain c := by
 induction s generalizing n acc with
 | nil =>
  obtain ⟨n, rfl⟩ := exists_eq_add_one_of_ne_zero (ne_of_gt he)
  simp [value?]
 | cons c s ih =>
  have hs : 0 < (spelled c).length := by unfold spelled; split_ifs <;> simp
  rw [flatMap_cons, List.length_append] at he
  obtain ⟨n, rfl⟩ := exists_eq_add_one_of_ne_zero (show n ≠ 0 by omega)
  rw [flatMap_cons, List.append_assoc, forall_mem_cons]
  by_cases hp : IsPlain c
  · have rest := ih (c :: acc) (n := n) (by omega)
    rw [reverse_cons, List.append_assoc, singleton_append] at rest
    rw [value?_spelled hp, rest]
    exact (and_iff_right hp).symm
  · refine iff_of_false (fun hr => ?_) fun h => hp h.1
    have amp : c ≠ '&' := by rintro rfl; exact hp (by decide)
    have lt : c ≠ '<' := by rintro rfl; exact hp (by decide)
    have gt : c ≠ '>' := by rintro rfl; exact hp (by decide)
    rw [spelled, if_neg amp, if_neg lt, if_neg gt, singleton_append, value?, if_neg lt, if_neg amp] at hr
    split_ifs at hr with quote blank allowed
    · have := congrArg (List.length ∘ Prod.snd) (Option.some.inj hr)
      simp at this
      omega
    · -- Another blank is read as a space.
      have hq := value?_prefix hr
      rw [toList_ofList, reverse_cons, prefix_append_right_inj] at hq
      obtain rfl : ' ' = c := by simpa using hq
      exact hp (by decide)
    · exact hp ⟨quote, allowed, (absurd · blank)⟩

lemma readBack_escape (v : String) (t : List Char) : readBack (escape v) t = some (v, t) ↔ Plain v := by
 rw [readBack, toList_escape]
 have hr := value?_eq_some (s := v.toList) [] t (n := (v.toList.flatMap spelled ++ '"' :: t).length + 1) (by simp)
 rwa [reverse_nil, nil_append, ofList_toList] at hr

end DexLens.Markup

namespace DexLens.CallGraph

open Markup Listing Specimen List Option

/-- The texts of a node that stand in an exported graph. -/
def Node.texts (n : Node) : List String := n.label :: n.values.map (·.2)

end DexLens.CallGraph
