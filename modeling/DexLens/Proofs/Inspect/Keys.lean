import DexLens.Inspect.Basic
import DexLens.Proofs.Effect
import DexLens.Proofs.Source.Printing

/-! # Keys of members

Methods and fields are looked up by texts that are put together without a separator. No type is the beginning of
another one, and a method descriptor opens with a sign that no name has, so a key comes apart in one way only.
-/

namespace DexLens.Descriptor

open List

/-- The sign that ends the path of a class does not occur in it. -/
def Shape.Closed : Shape -> Prop
 | primitive .. => True
 | ofClass path => ';' ∉ path
 | array t => t.Closed

/-- No type is the beginning of another one. -/
lemma Shape.text_split {s t : Shape} (hs : s.Closed) (ht : t.Closed) (same : s.text ++ us = t.text ++ vs) :
  s.text = t.text ∧ us = vs := by
 have letter {c : Char} {name : String} (listed : primitive? (.ofList [c]) = some name) : c ≠ 'L' ∧ c ≠ '[' :=
  not_or.mp fun hc => nomatch (primitive?_eq_none hc []).symm.trans listed
 induction s generalizing t with
 | primitive c _ listed =>
  cases t with
  | primitive d _ _ => simpa [text] using same
  | ofClass path => exact absurd (cons.inj same).1 (letter listed).1
  | array t => exact absurd (cons.inj same).1 (letter listed).2
 | ofClass path =>
  cases t with
  | primitive d _ listed => exact absurd (cons.inj same).1.symm (letter listed).1
  | ofClass other =>
   simp only [text, cons_append, append_assoc, cons.injEq, true_and] at same
   obtain ⟨rfl, rest⟩ := Lookup.split_at hs ht same
   exact ⟨rfl, rest⟩
  | array t => exact absurd (cons.inj same).1 (by decide)
 | array s ih =>
  cases t with
  | primitive d _ listed => exact absurd (cons.inj same).1.symm (letter listed).2
  | ofClass path => exact absurd (cons.inj same).1 (by decide)
  | array t => exact (ih (t := t) hs ht (cons.inj same).2).imp_left (congrArg ('[' :: ·))

def IsType (s : String) : Prop := ∃ t : Shape, t.Closed ∧ t.text = s.toList

lemma IsType.split (ha : IsType a) (hb : IsType b) (same : a ++ c = b ++ d) : a = b ∧ c = d := by
 obtain ⟨s, hs, hc⟩ := ha
 obtain ⟨t, ht, hd⟩ := hb
 have same := congrArg String.toList same
 rw [String.toList_append, String.toList_append, <- hc, <- hd] at same
 have parts := Shape.text_split hs ht same
 exact ⟨String.toList_inj.mp (by rw [<- hc, <- hd, parts.1]), String.toList_inj.mp parts.2⟩

end DexLens.Descriptor

namespace DexLens.Inspect

open Analysis Descriptor Dex Effect List

/-- The names of a method: its class, its own name, which has no parenthesis, and its descriptor, which opens with one. -/
structure IsMethod (cls name desc : String) : Prop where
 cls : IsType cls
 name : '(' ∉ name.toList
 opens : desc.toList.head? = some '('

lemma IsMethod.key_inj (ha : IsMethod c n d) (hb : IsMethod c' n' d') (same : c ++ n ++ d = c' ++ n' ++ d') :
  (c, n, d) = (c', n', d') := by
 rw [String.append_assoc, String.append_assoc] at same
 obtain ⟨rfl, rest⟩ := ha.cls.split hb.cls same
 obtain ⟨us, hu⟩ := head?_eq_some_iff.mp ha.opens
 obtain ⟨vs, hv⟩ := head?_eq_some_iff.mp hb.opens
 have rest := congrArg String.toList rest
 rw [String.toList_append, String.toList_append, hu, hv] at rest
 obtain ⟨hn, tail⟩ := Lookup.split_at ha.name hb.name rest
 obtain rfl := String.toList_inj.mp hn
 obtain rfl : d = d' := String.toList_inj.mp (by rw [hu, hv, tail])
 rfl

/-- The class and the type of a field. Its name may be any text. -/
def IsField (cls type : String) : Prop := IsType cls ∧ IsType type

lemma IsField.key_inj (ha : IsField c t) (hb : IsField c' t') (same : c ++ t ++ n = c' ++ t' ++ n') :
  (c, t, n) = (c', t', n') := by
 rw [String.append_assoc, String.append_assoc] at same
 obtain ⟨rfl, rest⟩ := ha.1.split hb.1 same
 obtain ⟨rfl, rfl⟩ := ha.2.split hb.2 rest
 rfl

/-! ## Looking members up -/

def methodSigs (m : DexMethod) : String × String × String := (m.owner, m.title, m.sig)

def fieldSigs (f : FieldUse) : String × String × String := (f.cls, f.type, f.name)

/-- An inspection of a file with these methods, whose names are sound. Its table of keys is that of the methods. -/
structure Listed (rs : List MRef) (s : Inspection) : Prop where
 methods : s.file.methods = .ok rs
 sound : ∀ r ∈ rs, let m := s.file.methodAt r
  IsMethod m.owner m.title m.sig
 table : ∀ t ∈ s.methodsByKey, t = rs.map fun r => ((s.file.methodAt r).key, r)

namespace Listed

variable {s : Inspection} (hl : Listed rs s)

include hl

lemma play_method? (k : String) : ∃ t, play (method? k) s =
   (.ok (((rs.map fun r => ((s.file.methodAt r).key, r)).reverse.find? (·.1 == k)).map (·.2)), t) ∧
   Listed rs t ∧ t.file = s.file := by
 unfold Inspect.method?
 rw [play_ok (play_get s)]
 cases hk : s.methodsByKey with
 | none =>
  have look : play (look File.methods) s = (.ok rs, s) := by
   change play (Query.of s.file.methods) s = _
   rw [hl.methods]
   rfl
  have file : play Inspect.file s = (.ok s.file, s) := rfl
  exact ⟨_, (play_ok file).trans ((play_ok look).trans rfl), ⟨hl.methods, hl.sound, by simp⟩, rfl⟩
 | some t => exact ⟨s, by rw [hl.table t hk]; rfl, hl, rfl⟩

lemma method? (hm : IsMethod c n d) : ∃ found t, play (method? (c ++ n ++ d)) s = (.ok found, t) ∧
  Listed rs t ∧ t.file = s.file ∧ (∀ r ∈ found, r ∈ rs ∧ methodSigs (s.file.methodAt r) = (c, n, d)) ∧
   (found = none -> ∀ r ∈ rs, methodSigs (s.file.methodAt r) ≠ (c, n, d)) := by
 obtain ⟨t, hp, ht, hs⟩ := hl.play_method? (c ++ n ++ d)
 refine ⟨_, t, hp, ht, hs, fun r hr => ?_, fun hn r hr own => ?_⟩
 · obtain ⟨e, he, rfl⟩ := Option.map_eq_some_iff.mp hr
   obtain ⟨r, hi, rfl⟩ := mem_map.mp (mem_reverse.mp (mem_of_find?_eq_some he))
   exact ⟨hi, (hl.sound r hi).key_inj hm (by simpa [DexMethod.key] using find?_some he)⟩
 · have := find?_eq_none.mp (Option.map_eq_none_iff.mp hn) _ (mem_reverse.mpr (mem_map.mpr ⟨r, hr, rfl⟩))
   cases own
   simp [DexMethod.key] at this

end Listed

lemma field?_found {u : Usage} (sound : ∀ f ∈ u.fields, IsField f.cls f.type) (hf : IsField c t) :
  (∀ f ∈ u.field? c n t, f ∈ u.fields ∧ fieldSigs f = (c, t, n)) ∧
   (u.field? c n t = none -> ∀ f ∈ u.fields, fieldSigs f ≠ (c, t, n)) := by
 refine ⟨fun f he => ?_, fun hn f hm own => ?_⟩
 · have hm := mem_of_find?_eq_some he
   exact ⟨hm, (sound f hm).key_inj hf (by simpa [FieldUse.key] using find?_some he)⟩
 · cases own
   simpa [FieldUse.key] using find?_eq_none.mp hn f hm

/-- The use of a field is noted with no other field. -/
lemma field?_useField {u : Usage} (hf : IsField c t) (hg : IsField c' t') (other : (c', t', n') ≠ (c, t, n))
  (method : Nat) (a : Access) (off : Nat) : (u.useField c t n method a off).field? c' n' t' = u.field? c' n' t' := by
 have other : c' ++ t' ++ n' ≠ c ++ t ++ n := fun same => other (hg.key_inj hf same)
 have added : (u.addField c t n).field? c' n' t' = u.field? c' n' t' := by
  unfold Usage.addField Usage.field?
  dsimp only
  split
  · rfl
  · simp [find?_append, FieldUse.key, other.symm]
 let note (f : FieldUse) := if f.key == c ++ t ++ n then { f with places := f.places.push method a off } else f
 have keys : (·.key == c' ++ t' ++ n') ∘ note = (·.key == c' ++ t' ++ n') := by
  funext f
  dsimp only [Function.comp_apply, note]
  split <;> rfl
 have noted : (u.useField c t n method a off).field? c' n' t' =
   ((u.addField c t n).fields.map note).find? (·.key == c' ++ t' ++ n') := rfl
 rw [noted, find?_map, keys, <- Usage.field?, added]
 cases he : u.field? c' n' t' with
 | none => rfl
 | some f =>
  have own : f.key = c' ++ t' ++ n' := by simpa using find?_some he
  simp [note, own, other]

theorem members_told_apart :
  (∀ c n d c' n' d', IsMethod c n d -> IsMethod c' n' d' -> c ++ n ++ d = c' ++ n' ++ d' -> (c, n, d) = (c', n', d')) ∧
  (∀ c t n c' t' n', IsField c t -> IsField c' t' -> c ++ t ++ n = c' ++ t' ++ n' -> (c, t, n) = (c', t', n')) ∧
  (∀ rs s c n d, Listed rs s -> IsMethod c n d -> ∃ found t, play (method? (c ++ n ++ d)) s = (.ok found, t) ∧
    Listed rs t ∧ t.file = s.file ∧ (∀ r ∈ found, r ∈ rs ∧ methodSigs (s.file.methodAt r) = (c, n, d)) ∧
    (found = none -> ∀ r ∈ rs, methodSigs (s.file.methodAt r) ≠ (c, n, d))) ∧
  (∀ (u : Usage) c t n, (∀ f ∈ u.fields, IsField f.cls f.type) -> IsField c t ->
   (∀ f ∈ u.field? c n t, f ∈ u.fields ∧ fieldSigs f = (c, t, n)) ∧
   (u.field? c n t = none -> ∀ f ∈ u.fields, fieldSigs f ≠ (c, t, n))) ∧
  ∀ (u : Usage) c t n c' t' n' method a off, IsField c t -> IsField c' t' -> (c', t', n') ≠ (c, t, n) ->
   (u.useField c t n method a off).field? c' n' t' = u.field? c' n' t' :=
 ⟨fun _ _ _ _ _ _ => IsMethod.key_inj, fun _ _ _ _ _ _ => IsField.key_inj, fun _ _ _ _ _ hl => hl.method?,
  fun _ _ _ _ => field?_found, fun _ _ _ _ _ _ _ m a off hf hg other => field?_useField hf hg other m a off⟩

/-- A field of an array type. -/
theorem members_told_apart_array : IsField "LA;" "[I" ∧
  ∀ c t n, IsField c t -> c ++ t ++ n = "LA;[Ix" -> (c, t, n) = ("LA;", "[I", "x") := by
 have hf : IsField "LA;" "[I" :=
  ⟨⟨.ofClass ['A'], (by decide : ';' ∉ ['A']), rfl⟩, .array (.primitive 'I' "int" (by decide)), trivial, rfl⟩
 exact ⟨hf, fun c t n hc same => members_told_apart.2.1 c t n _ _ _ hc hf same⟩

end DexLens.Inspect
