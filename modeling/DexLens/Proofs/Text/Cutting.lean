import Mathlib
import DexLens.Text.Basic

/-! # Cutting, stripping and reading text

Behind a lead without the separator a text is cut where one expects it, as long as the separator cannot overlap with
itself. Stripping takes blanks away and nothing else.
-/

namespace DexLens.Text

open List Nat Option Int String

variable {s sep lead : List Char} {c : Char} {i : Int}

/-! ## Cutting -/

lemma dropLeading?_append (p s : List Char) : dropLeading? p (p ++ s) = some s := by
 induction p with
 | nil => rfl
 | cons c p ih => simp [dropLeading?, ih]

lemma of_dropLeading? (h : dropLeading? p s = some t) : s = p ++ t := by
 fun_induction dropLeading? p s with
 | case1 s => exact some.inj h
 | case2 => cases h
 | case3 p s c ih => rw [ih h, cons_append]
 | case4 => cases h

def Unbordered (sep : List Char) : Prop := ∀ n, 0 < n -> n < sep.length -> ¬ sep.drop n <+: sep

instance (sep : List Char) : Decidable (Unbordered sep) :=
 decidable_of_iff (∀ n < sep.length, 0 < n -> ¬ sep.drop n <+: sep)
  ⟨fun h n pos short => h n short pos, fun h n short pos => h n pos short⟩

lemma unbordered_singleton (c : Char) : Unbordered [c] := by
 intro n pos hs
 simp only [List.length_singleton] at hs
 omega

/-- A lead without the separator stays so when the separator follows it, until it ends. -/
lemma Unbordered.dropLeading?_append (hu : Unbordered sep) (hn : lead ≠ [])
  (ha : dropLeading? sep lead = none) (rest : List Char) : dropLeading? sep (lead ++ (sep ++ rest)) = none := by
 rw [eq_none_iff_forall_ne_some]
 intro t hd
 have same := of_dropLeading? hd
 rcases lt_or_ge lead.length sep.length with hs | long
 · -- The separator starts in the lead and ends behind it, so it overlaps with itself.
   have hb : lead <+: sep := prefix_of_prefix_length_le ⟨_, same⟩ (prefix_append sep t) hs.le
   obtain ⟨later, rfl⟩ := hb
   have hf : lead ++ later ++ rest = later ++ t := append_cancel_left (same.trans (append_assoc _ _ _))
   have ho : later <+: lead ++ later := prefix_of_prefix_length_le ⟨t, hf.symm⟩ (prefix_append _ rest) (by simp)
   refine hu lead.length (length_pos_iff.mpr hn) hs ?_
   rwa [drop_left]
 · have hw : sep <+: lead := prefix_of_prefix_length_le (prefix_append sep t) ⟨_, same⟩ long
   obtain ⟨later, rfl⟩ := hw
   rw [dropLeading?_append] at ha
   cases ha

lemma Unbordered.cutList?_append (hu : Unbordered sep) (ha : cutList? sep lead = none) (rest : List Char) :
  cutList? sep (lead ++ (sep ++ rest)) = some (lead, rest) := by
 induction lead with
 | nil =>
  cases sep with
  | nil => cases ha
  | cons c sep => rw [nil_append, cons_append, cutList?, <- cons_append, Text.dropLeading?_append]
 | cons c lead ih =>
  rw [cutList?] at ha
  cases hb : dropLeading? sep (c :: lead) with
  | some t => simp [hb] at ha
  | none =>
   simp only [hb, map_eq_none_iff] at ha
   have hl := hu.dropLeading?_append (cons_ne_nil c lead) hb rest
   rw [cons_append] at hl ⊢
   rw [cutList?, hl, ih ha]
   rfl

lemma cutList?_singleton_eq_none : cutList? [c] s = none ↔ c ∉ s := by
 induction s with
 | nil => simp [cutList?]
 | cons d s ih =>
  by_cases same : c = d
  · simp [cutList?, dropLeading?, same]
  · simp [cutList?, dropLeading?, same, ih]

lemma cutList?_singleton (ha : c ∉ lead) (rest : List Char) : cutList? [c] (lead ++ c :: rest) = some (lead, rest):=
 (unbordered_singleton c).cutList?_append (cutList?_singleton_eq_none.mpr ha) rest

/-! ## Stripping -/

lemma stripList_eq (s : List Char) : stripList s = (s.dropWhile isBlank).rdropWhile isBlank := rfl

lemma stripList_sublist (s : List Char) : (stripList s).Sublist s :=
 ( rdropWhile_prefix isBlank _).sublist.trans (dropWhile_sublist isBlank)

lemma rdropWhile_append_cons (firm : p d = false) (a b : List Char) :
  (a ++ d :: b).rdropWhile p = a ++ d :: b.rdropWhile p := by
 induction b using reverseRecOn with
 | nil => simp [rdropWhile_concat_neg _ _ _ (Bool.not_eq_true _ ▸ firm)]
 | append_singleton b x ih =>
  rw [<- cons_append, <- List.append_assoc, rdropWhile_concat, rdropWhile_concat, ih]
  split
  · rfl
  · rw [List.append_assoc, cons_append]

lemma stripList_framed (hc : isBlank c = false) (hd : isBlank d = false) (a b : List Char) :
  stripList (c :: (a ++ d :: b)) = c :: (a ++ d :: b.rdropWhile isBlank) := by
 rw [stripList_eq, dropWhile_cons_of_neg (by simp [hc]), <- cons_append, rdropWhile_append_cons hd, cons_append]

lemma stripList_concat_blank (hb : isBlank c = true) (s : List Char) : stripList (s ++ [c]) = stripList s := by
 rw [stripList_eq, stripList_eq, dropWhile_append]
 split
 · rename_i he
   simp [isEmpty_iff.mp he, hb]
 · exact rdropWhile_concat_pos _ _ _ hb

lemma stripList_rdropWhile (s : List Char) : stripList (s.rdropWhile isBlank) = stripList s := by
 induction s using reverseRecOn with
 | nil => rfl
 | append_singleton s c ih =>
  rw [rdropWhile_concat]
  split
  · rename_i hb
    rw [ih, stripList_concat_blank hb]
  · rfl

lemma stripList_of_all (firm : ∀ c ∈ s, isBlank c = false) : stripList s = s := by
 have hf : s.dropWhile isBlank = s := by
  cases s with
  | nil => rfl
  | cons c s => exact dropWhile_cons_of_neg (by simp [firm c])
 rw [stripList_eq, hf, rdropWhile_eq_self_iff]
 intro hn
 simp [firm _ (getLast_mem hn)]

lemma flatten_stripList_sublist (pieces : List (List Char)) : ((pieces.map stripList).flatten).Sublist pieces.flatten := by
 induction pieces with
 | nil => exact .refl _
 | cons p pieces ih => exact (stripList_sublist p).append ih

/-- Only if there was nothing to strip. -/
lemma flatten_stripList_eq_iff {pieces : List (List Char)} :
  (pieces.map stripList).flatten = pieces.flatten ↔ ∀ p ∈ pieces, stripList p = p := by
 induction pieces with
 | nil => simp
 | cons p pieces ih =>
  rw [forall_mem_cons, <- ih, map_cons, flatten_cons, flatten_cons]
  refine ⟨fun same => ?_, fun ⟨own, rest⟩ => by rw [own, rest]⟩
  -- Neither part can be longer than it was, so neither is shorter.
  have hl := congrArg List.length same
  rw [List.length_append, List.length_append] at hl
  have own := (stripList_sublist p).length_le
  have rest := (flatten_stripList_sublist pieces).length_le
  exact ⟨(stripList_sublist p).eq_of_length (by omega), (flatten_stripList_sublist pieces).eq_of_length (by omega)⟩

lemma strip_eq_self_iff {s} : strip s = s ↔ stripList s.toList = s.toList := by rw [strip, <- toList_inj, toList_ofList]

lemma join_strip_eq_iff : String.join (pieces.map strip) = String.join pieces ↔ ∀ p ∈ pieces, strip p = p := by
 have hs : (pieces.map strip).map String.toList = (pieces.map String.toList).map stripList := by
  simp [strip, Function.comp_def]
 rw [join_eq, join_eq, ofList_inj, hs, flatten_stripList_eq_iff, List.forall_mem_map]
 exact forall₂_congr fun _ _ => strip_eq_self_iff.symm

/-! ## Numbers -/

lemma isBlank_of_isDigit (hd : c.isDigit = true) : isBlank c = false := by
 simp only [Char.isDigit, Bool.and_eq_true, decide_eq_true_eq, UInt32.le_iff_toNat_le] at hd
 have low : 48 ≤ c.toNat := hd.1
 have high : c.toNat ≤ 57 := hd.2
 simp only [isBlank, Bool.or_eq_false_iff, Bool.and_eq_false_iff, decide_eq_false_iff_not, beq_eq_false_iff_ne]
 omega

lemma digit?_of_isDigit (hd : c.isDigit = true) : digit? c = some (c.toNat - 48) := by
 have hb : ('0' ≤ c && c ≤ '9') = true := hd
 rw [digit?, if_pos hb]

lemma digits_go (hg : ∀ c ∈ cs, c.isDigit = true) (acc : Nat)
  (hb : cs = [] -> seen = true) : digits?.go 10 cs acc seen = some (ofDigitChars 10 cs acc) := by
 induction cs generalizing acc seen with
 | nil => simp [digits?.go, hb rfl, ofDigitChars]
 | cons c cs ih =>
  have hd := hg c mem_cons_self
  have mark : c ≠ '_' := by
   rintro rfl
   cases hd
  have hs : c.toNat - 48 < 10 := by
   simp only [Char.isDigit, Bool.and_eq_true, decide_eq_true_eq, UInt32.le_iff_toNat_le] at hd
   have high : c.toNat ≤ 57 := hd.2
   omega
  simp only [digits?.go, mark, if_false, digit?_of_isDigit hd, hs, if_true]
  rw [ih (fun d hm => hg d (mem_cons_of_mem c hm)) _ fun _ => rfl, mul_comm]
  rfl

lemma isDigit_of_mem_toDigits (hm : c ∈ toDigits 10 n) : c.isDigit = true :=
 Nat.isDigit_of_mem_toDigits (by omega) (by omega) hm

lemma digits?_toDigits (n : Nat) : digits? 10 (toDigits 10 n) = some n := by
 have read : digits? 10 (toDigits 10 n) = digits?.go 10 (toDigits 10 n) 0 false := by
  unfold digits?
  split
  · exact absurd ‹_› toDigits_ne_nil
  · rfl
 rw [read, digits_go (fun _ => isDigit_of_mem_toDigits) 0 (absurd · toDigits_ne_nil), ofDigitChars_ten_toDigits]

lemma toList_dec_of_nonneg (h : 0 ≤ i) : (dec i).toList = toDigits 10 i.toNat := by
 change i.repr.toList = _
 rw [repr_eq_if, if_pos h, repr_eq_ofList_toDigits, toList_ofList]

lemma toList_dec_of_neg (h : i < 0) : (dec i).toList = '-' :: toDigits 10 (-i).toNat := by
 change i.repr.toList = _
 rw [repr_eq_if, if_neg (not_le.mpr h), repr_eq_ofList_toDigits]
 simp

lemma of_mem_dec (hm : c ∈ (dec i).toList) : c = '-' ∨ c.isDigit = true := by
 rcases le_or_gt 0 i with hn | neg
 · rw [toList_dec_of_nonneg hn] at hm
   exact .inr (isDigit_of_mem_toDigits hm)
 · rw [toList_dec_of_neg neg] at hm
   exact (mem_cons.mp hm).imp_right isDigit_of_mem_toDigits

variable (i : Int)

lemma colon_notMem_dec : ':' ∉ (dec i).toList := by
 intro hm
 rcases of_mem_dec hm with sign | hd
 · cases sign
 · cases hd

lemma stripList_dec : stripList (dec i).toList = (dec i).toList := by
 refine stripList_of_all fun c hm => ?_
 rcases of_mem_dec hm with rfl | hd
 · rfl
 · exact isBlank_of_isDigit hd

lemma int?_dec : int? (dec i) = some i := by
 rw [int?, intBase?, stripList_dec]
 rcases le_or_gt 0 i with hn | neg
 · have read : (digits? 10 (toDigits 10 i.toNat)).map ofNat = some i := by
    rw [digits?_toDigits, map_some, ofNat_eq_natCast, toNat_of_nonneg hn]
   -- Neither sign is a digit, so the text is read as it stands.
   rw [toList_dec_of_nonneg hn]
   split
   · rename_i cs same
     cases isDigit_of_mem_toDigits (n := i.toNat) (c := '-') (by simp [same])
   · rename_i cs same
     cases isDigit_of_mem_toDigits (n := i.toNat) (c := '+') (by simp [same])
   · exact read
 · rw [toList_dec_of_neg neg]
   have size : ((-i).toNat : Int) = -i := toNat_of_nonneg (by omega)
   simp [digits?_toDigits, size]

end DexLens.Text
