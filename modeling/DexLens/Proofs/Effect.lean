import Mathlib
import DexLens.Fault

/-! # Steps that change a state and may fail

A step ends in a value or in a fault, and whatever it did to the state before a fault stays done. `play` shows both
results of a step. `Keeps` relates the state before a step to the state it leaves, however the step ends. What
changes no state is a `Res`.
-/

namespace DexLens.Res

open List

variable {α β : Type} {xs : List α} {f : α -> Res β}

lemma bind_ok (h : x >>= f = .ok b) : ∃ a, x = .ok a ∧ f a = .ok b := by
 cases x with
 | error e => cases h
 | ok a => exact ⟨a, rfl, h⟩

lemma exists_of_isOk {x : Res α} (isOk : x.isOk = true) : ∃ a, x = .ok a := by
 cases x with
 | error e => cases isOk
 | ok a => exact ⟨a, rfl⟩

instance {x : Res α} [DecidablePred P] : Decidable (∃ a, x = .ok a ∧ P a) :=
 match x with
 | .ok a => decidable_of_iff (P a) ⟨fun holds => ⟨a, rfl, holds⟩, fun ⟨_, same, holds⟩ => Except.ok.inj same ▸ holds⟩
 | .error _ => isFalse fun ⟨_, same, _⟩ => nomatch same

lemma bind_of_ok (ends : x = .ok a) (f : α -> Res β) : x >>= f = f a := by
 rw [ends]
 rfl

lemma mapM_ok (each : ∀ x ∈ xs, f x = .ok (g x)) : xs.mapM f = .ok (xs.map g) := by
 induction xs with
 | nil => rfl
 | cons x xs ih =>
  rw [mapM_cons, each x mem_cons_self, ih fun y hm => each y (mem_cons_of_mem x hm)]
  rfl

lemma mapM_mem (ends : xs.mapM f = .ok bs) : ∀ x ∈ xs, ∃ b ∈ bs, f x = .ok b := by
 induction xs generalizing bs with
 | nil => exact nofun
 | cons x xs ih =>
  rw [mapM_cons] at ends
  obtain ⟨b, hf, ends⟩ := bind_ok ends
  obtain ⟨bs', rest, ends⟩ := bind_ok ends
  cases ends
  refine forall_mem_cons.mpr ⟨⟨b, mem_cons_self, hf⟩, fun y hm => ?_⟩
  obtain ⟨b', hi, same⟩ := ih rest y hm
  exact ⟨b', mem_cons_of_mem b hi, same⟩

lemma mapM_error (fails : xs.mapM f = .error cause) : ∃ x ∈ xs, f x = .error cause := by
 induction xs with
 | nil => cases fails
 | cons x xs ih =>
  rw [mapM_cons] at fails
  cases hf : f x with
  | error e => exact ⟨x, mem_cons_self, by simpa [hf, bind, Except.bind] using fails⟩
  | ok b =>
   cases rest : xs.mapM f with
   | error e =>
    obtain ⟨y, hm, he⟩ := ih (rest.trans (by simpa [hf, rest, bind, Except.bind] using fails))
    exact ⟨y, mem_cons_of_mem x hm, he⟩
   | ok bs => simp [hf, rest, bind, Except.bind, pure, Except.pure] at fails

/-- What a step makes of the rest of a list, a run makes of its end. -/
lemma foldlM_ok {f : β -> α -> Res β} {P : List α -> β -> Prop}
  (step : ∀ b x xs, P (x :: xs) b -> ∃ b', f b x = .ok b' ∧ P xs b') (hs : P xs b) :
  ∃ b', xs.foldlM f b = .ok b' ∧ P [] b' := by
 induction xs generalizing b with
 | nil => exact ⟨b, rfl, hs⟩
 | cons x xs ih =>
  obtain ⟨b', here, hs⟩ := step b x xs hs
  obtain ⟨b'', rest, hs⟩ := ih hs
  exact ⟨b'', by rw [foldlM_cons, bind_of_ok here, rest], hs⟩

/-- What an outcome ends in, if it does, is as is said. -/
def Gives (x : Res α) (P : α -> Prop) : Prop := ∀ a, x = .ok a -> P a

namespace Gives

lemma ok (ha : P a) : Gives (.ok a) P := by
 rintro _ ⟨⟩
 exact ha

lemma bind (hx : Gives x P) (hf : ∀ a, P a -> Gives (f a) Q) : Gives (x >>= f) Q := by
 intro b hb
 obtain ⟨a, ha, hb⟩ := bind_ok hb
 exact hf a (hx a ha) b hb

lemma next (hf : ∀ a, Gives (f a) Q) : Gives (x >>= f) Q := bind (fun _ _ => trivial) fun a _ => hf a

lemma foldlM {f : β -> α -> Res β} (step : ∀ b x, P b -> Gives (f b x) P) (hs : P b) : Gives (xs.foldlM f b) P := by
 induction xs generalizing b with
 | nil => exact ok hs
 | cons x xs ih =>
  rw [foldlM_cons]
  exact (step b x hs).bind fun _ => ih

end Gives

end DexLens.Res

namespace DexLens.Effect

open Std List

variable {σ α β : Type} {P : σ -> Prop} {xs : List α}

section

variable (f : σ -> σ) (m : ExceptT Fault (StateM σ) α) (s : σ)

/-- How a step ends on a state, and the state it leaves. -/
def play : Res α × σ := m.run.run s

@[simp] lemma play_pure (a : α) (s : σ) : play (pure a : ExceptT Fault (StateM σ) α) s = (.ok a, s):= rfl

@[simp] lemma play_throw (f : Fault) (s : σ) : play (throw f : ExceptT Fault (StateM σ) α) s = (.error f, s):= rfl

@[simp] lemma play_get : play (get : ExceptT Fault (StateM σ) σ) s = (.ok s, s) := rfl

@[simp] lemma play_modify : play (modify f : ExceptT Fault (StateM σ) PUnit) s = (.ok ⟨⟩, f s) := rfl

lemma play_bind (f : α -> ExceptT Fault (StateM σ) β) (s : σ) : play (m >>= f) s = match play m s with
   | (.ok a, t) => play (f a) t
   | (.error e, t) => (.error e, t) := by
 change (ExceptT.bindCont f (m.run.run s).1).run (m.run.run s).2 = _
 simp only [play]
 rcases m.run.run s with ⟨outcome, t⟩
 cases outcome <;> rfl

end

lemma play_ok (h : play m s = (.ok a, t)) : play (m >>= f) s = play (f a) t := by
 simp only [play_bind, h]

lemma play_error (h : play m s = (.error e, t)) : play (m >>= f) s = (.error e, t) := by simp only [play_bind, h]

lemma bind_ok (h : play (m >>= f) s = (.ok b, u)) : ∃ a t, play m s = (.ok a, t) ∧ play (f a) t = (.ok b, u) := by
 rcases hf : play m s with ⟨outcome, t⟩
 cases outcome with
 | error e => simp [play_bind, hf] at h
 | ok a => exact ⟨a, t, rfl, by rwa [play_ok hf] at h⟩

def Succeeds (m : ExceptT Fault (StateM σ) α) : Prop := ∀ s, ∃ a t, play m s = (.ok a, t)

namespace Succeeds

lemma of_pure (a : α) : Succeeds (pure a : ExceptT Fault (StateM σ) α) := fun s => ⟨a, s, rfl⟩

lemma bind (hf : Succeeds m) (hs : ∀ a, Succeeds (f a)) : Succeeds (m >>= f) := by
 intro s
 obtain ⟨a, t, ends⟩ := hf s
 obtain ⟨b, u, he⟩ := hs a t
 exact ⟨b, u, (play_ok ends).trans he⟩

lemma of_forM (h : ∀ x ∈ xs, Succeeds (f x)) : Succeeds (xs.forM f) := by
 induction xs with
 | nil => exact of_pure _
 | cons x xs ih => exact (h x mem_cons_self).bind fun _ => ih fun y hm => h y (mem_cons_of_mem x hm)

end Succeeds

def HandsOn (P : σ -> Prop) (s t : σ) : Prop := P s -> P t

instance (P : σ -> Prop) : Refl (HandsOn P) := ⟨fun _ => id⟩

instance (P : σ -> Prop) : IsTrans σ (HandsOn P) := ⟨fun _ _ _ first second => second ∘ first⟩

def Keeps (R : σ -> σ -> Prop) (m : ExceptT Fault (StateM σ) α) : Prop := ∀ s, R s (play m s).2

namespace Keeps

variable {R : σ -> σ -> Prop}

lemma of_play (h : Keeps R m) (ends : play m s = (r, t)) : R s t := by
 have hr := h s
 rwa [ends] at hr

lemma of_pure [Refl R] (a : α) : Keeps R (pure a : ExceptT Fault (StateM σ) α) := refl

lemma of_throw [Refl R] (f : Fault) : Keeps R (throw f : ExceptT Fault (StateM σ) α) := refl

lemma of_get [Refl R] : Keeps R (get : ExceptT Fault (StateM σ) σ) := refl

lemma of_modify (h : ∀ s, R s (f s)) : Keeps R (modify f : ExceptT Fault (StateM σ) PUnit):= h

lemma bind_from [IsTrans σ R]
  (hf : R s (play m s).2) (hs : ∀ a t, play m s = (.ok a, t) -> R t (play (f a) t).2) : R s (play (m >>= f) s).2 := by
 rcases ends : play m s with ⟨outcome, t⟩
 rw [ends] at hf
 cases outcome with
 | error e =>
  rw [play_error ends]
  exact hf
 | ok a =>
  rw [play_ok ends]
  exact IsTrans.trans _ _ _ hf (hs a t ends)

lemma bind [IsTrans σ R] (hm : Keeps R m) (hf : ∀ a, Keeps R (f a)) : Keeps R (m >>= f) :=
 fun s => bind_from (hm s) fun a t _ => hf a t

section

variable {s : σ} {f : α -> ExceptT Fault (StateM σ) PUnit}

lemma of_forM_mem [Refl R] [IsTrans σ R] (h : ∀ x ∈ xs, Keeps R (f x)) : Keeps R (xs.forM f) := by
 induction xs with
 | nil => exact of_pure _
 | cons x xs ih => exact (h x mem_cons_self).bind fun _ => ih fun y hm => h y (mem_cons_of_mem x hm)

lemma of_forM [Refl R] [IsTrans σ R] (xs : List α) (h : ∀ x, Keeps R (f x)) : Keeps R (xs.forM f) := of_forM_mem fun x _ => h x

lemma forM_from [Refl R] [IsTrans σ R] (ht : ∀ {s t}, R s t -> P s -> P t)
  (hr : ∀ x ∈ xs, ∀ s, P s -> R s (play (f x) s).2) (hs : P s) : R s (play (xs.forM f) s).2 := by
 induction xs generalizing s with
 | nil => exact refl s
 | cons x xs ih =>
  have hf := hr x mem_cons_self s hs
  refine bind_from hf fun _ t ends => ?_
  rw [ends] at hf
  exact ih (fun y hm => hr y (mem_cons_of_mem x hm)) (ht hf hs)

/-- A loop of rounds that end well. What a round brings about stays. -/
lemma forM_ok [Refl R] [IsTrans σ R] {Q : α -> σ -> Prop} (hst : ∀ {s t}, R s t -> P s -> P t)
  (hl : ∀ {x s t}, R s t -> Q x s -> Q x t) (hr : ∀ x ∈ xs, ∀ s, P s -> ∃ t, play (f x) s = (.ok ⟨⟩, t) ∧ R s t ∧ Q x t)
  (hs : P s) : ∃ t, play (xs.forM f) s = (.ok ⟨⟩, t) ∧ R s t ∧ ∀ x ∈ xs, Q x t := by
 induction xs generalizing s with
 | nil => exact ⟨s, rfl, refl s, by simp⟩
 | cons x xs ih =>
  obtain ⟨t, ends, hf, hb⟩ := hr x mem_cons_self s hs
  obtain ⟨u, rest, ht, all⟩ := ih (fun y hm => hr y (mem_cons_of_mem x hm)) (hst hf hs)
  exact ⟨u, (play_ok ends).trans rest, IsTrans.trans _ _ _ hf ht, forall_mem_cons.mpr ⟨hl ht hb, all⟩⟩

end

lemma of_mapM [Refl R] [IsTrans σ R] (xs : List α) (h : ∀ x, Keeps R (f x)) : Keeps R (xs.mapM f) := by
 induction xs with
 | nil => exact of_pure _
 | cons x xs ih =>
  rw [mapM_cons]
  exact (h x).bind fun _ => ih.bind of_pure

lemma of_filterM [Refl R] [IsTrans σ R] (xs : List α) (h : ∀ x, Keeps R (p x)) : Keeps R (xs.filterM p) := by
 have aux : ∀ acc, Keeps R (filterAuxM p xs acc) := by
  induction xs with
  | nil => exact of_pure
  | cons x xs ih => exact fun acc => (h x).bind fun _ => ih _
 exact (aux []).bind of_pure

end Keeps

end DexLens.Effect
