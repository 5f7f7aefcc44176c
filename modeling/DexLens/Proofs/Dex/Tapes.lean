import DexLens.Dex.Tape
import DexLens.Proofs.Effect

/-! # Whether it shows that code was read before

Readings hand out what decoding afresh would, as long as nothing is kept. What is kept was decoded in one of the
readings from the sixth on, up to a failure, and stays whatever becomes of the code.
-/

namespace DexLens.Dex.Tape

open Effect List Playback

/-- A call on code: it is read, as far as is needed or as a whole, or set. -/
inductive Call where
 | iterate
 | find (off : Int)
 | position (off : Int)
 | pick (idx : Int) (off : Option Int)
 | setBytes (bs : Bytes)
 | setStart (n : Nat)

inductive Act where
 | read
 | setBytes (bs : Bytes)
 | setStart (n : Nat)

/-- The code after a call. -/
def Call.run (t : Tape) : Call -> Tape
 | iterate => (play reading t).2
 | find off => (play (Playback.find off) t).2
 | position off => (play (Playback.position off) t).2
 | pick idx off => (play (Playback.pick idx off) t).2
 | setBytes bs => t.setBytes bs
 | setStart n => t.setStart n

/-- An instruction at an offset is picked in a second reading, if the first did not fail. -/
def Call.acts (t : Tape) : Call -> List Act
 | iterate | find _ | position _ | pick _ none => [.read]
 | pick _ (some o) => if (play (Playback.position o) t).1.isOk then [.read, .read] else [.read]
 | setBytes bs => [.setBytes bs]
 | setStart n => [.setStart n]

def act (t : Tape) : Act -> Tape
 | .read => t.read.2
 | .setBytes bs => t.setBytes bs
 | .setStart n => t.setStart n

/-- The readings: what there was to decode, and what was handed out. -/
def log : Tape -> List Act -> List (Strip × Reading)
 | _, [] => []
 | t, .read :: l => (t.toStrip, t.read.1) :: log t.read.2 l
 | t, .setBytes bs :: l => log (t.setBytes bs) l
 | t, .setStart n :: l => log (t.setStart n) l

/-- The readings of calls. -/
def logOf : Tape -> List Call -> List (Strip × Reading)
 | _, [] => []
 | t, c :: cs => t.log (c.acts t) ++ logOf (c.run t) cs

variable (t : Tape) (off : Int)

@[simp] lemma play_reading : play reading t = (.ok t.read.1, t.read.2) := rfl

lemma play_find : (play (find off) t).2 = t.read.2 := by
 unfold find
 rw [play_ok (play_reading t)]
 split
 split <;> rfl

lemma play_position : (play (position off) t).2 = t.read.2 := by
 rw [position, play_bind, <- play_find t off]
 rcases play (find off) t with ⟨_ | _ | _, t'⟩ <;> rfl

lemma play_all (f : List Code.Instr -> Res α) : (play (all >>= fun is => liftM (f is)) t).2 = t.read.2 := by
 have same : (play all t).2 = t.read.2 := by
  unfold Playback.all
  rw [play_ok (play_reading t)]
  split <;> rfl
 rw [play_bind, <- same]
 rcases play all t with ⟨_ | _, t'⟩ <;> rfl

lemma run_eq (c : Call) : c.run t = (c.acts t).foldl act t := by
 cases c with
 | iterate | setBytes bs | setStart n => rfl
 | find off => exact t.play_find off
 | position off => exact t.play_position off
 | pick idx off =>
  cases off with
  | none => exact t.play_all _
  | some o =>
   have hp := t.play_position o
   simp only [Call.run, Call.acts, pick]
   rw [play_bind]
   rcases hs : play (position o) t with ⟨_ | n, t'⟩
   · rw [hs] at hp
     exact hp
   · obtain rfl : t' = t.read.2 := by rwa [hs] at hp
     exact play_all _ _

lemma log_append (l m : List Act) : t.log (l ++ m) = t.log l ++ (l.foldl act t).log m := by
 induction l generalizing t with
 | nil => rfl
 | cons a l ih => cases a <;> simp [log, act, ih]

/-- What calls come down to. -/
def acts : Tape -> List Call -> List Act
 | _, [] => []
 | t, c :: cs => c.acts t ++ acts (c.run t) cs

lemma logOf_eq (calls : List Call) : t.logOf calls = t.log (t.acts calls) := by
 induction calls generalizing t with
 | nil => rfl
 | cons c cs ih => rw [logOf, acts, log_append, ih, run_eq]

variable {t}

/-- Once something is kept, it is what every reading hands out. -/
lemma log_kept (hk : t.kept ≠ []) (l : List Act) : ∀ r ∈ t.log l, r.2 = (t.kept, none) := by
 induction l generalizing t with
 | nil => exact nofun
 | cons a l ih =>
  cases a with
  | read =>
   have same : t.read = ((t.kept, none), t) := if_pos hk
   rw [log, same]
   exact forall_mem_cons.mpr ⟨rfl, ih hk⟩
  | setBytes bs => exact ih hk
  | setStart n => exact ih hk

/-- A reading that keeps what it decodes has to succeed, and all later ones have to find the same. -/
def Lasting (before : Nat) (ss : List Strip) : Prop :=
 ∀ xs a ys, ss = xs ++ a :: ys -> 5 ≤ before + xs.length ∨ (∃ b ∈ xs, 1000 ≤ b.units) -> a.fresh.1 ≠ [] ->
  a.fresh.2 = none ∧ ∀ b ∈ ys, b.fresh = a.fresh

lemma lasting_cons (later : ∀ k, 5 ≤ m + k ↔ 5 ≤ n + (k + 1) ∨ 1000 ≤ a.units) : Lasting n (a :: ss) ↔
   (5 ≤ n -> a.fresh.1 ≠ [] -> a.fresh.2 = none ∧ ∀ b ∈ ss, b.fresh = a.fresh) ∧ Lasting m ss := by
 have turn xs : (5 ≤ n + (a :: xs).length ∨ ∃ b ∈ a :: xs, 1000 ≤ b.units) ↔
   5 ≤ m + xs.length ∨ ∃ b ∈ xs, 1000 ≤ b.units := by
  rw [later, length_cons, or_assoc]
  simp
 constructor
 · intro lasts
   exact ⟨fun hn => lasts [] a ss rfl (.inl hn),
    fun xs b ys parts hc => lasts (a :: xs) b ys (congrArg _ parts) ((turn xs).mpr hc)⟩
 · rintro ⟨hf, rest⟩ (_ | ⟨_, xs⟩) b ys parts hc
   · cases parts
     exact hf (by simpa using hc)
   · cases parts
     exact rest xs b ys rfl ((turn xs).mp hc)

lemma lasting_of_same (same : ∀ b ∈ ss, b.fresh = (is, none)) : Lasting n ss := by
 rintro xs a ys rfl - -
 have ha : a.fresh = (is, none) := same a (by simp)
 refine ⟨by rw [ha], fun b hm => ?_⟩
 rw [ha, same b (by simp [hm])]

lemma read_keeping (hk : t.kept = []) (hr : 5 ≤ t.reads) :
  t.read.2 = { t with kept := t.fresh.1 } ∧ (t.read.1 = t.fresh ↔ t.fresh.1 = [] ∨ t.fresh.2 = none) := by
 rcases hf : t.fresh with ⟨is, _ | cause⟩ <;> simp [read, hk, hr, hf, eq_comm]

lemma log_fresh_iff (hk : t.kept = []) (l : List Act) :
  (∀ r ∈ t.log l, r.2 = r.1.fresh) ↔ Lasting t.reads ((t.log l).map Prod.fst) := by
 induction l generalizing t with
 | nil => simp [log, Lasting]
 | cons a l ih =>
  cases a with
  | setBytes bs => exact ih hk
  | setStart n => exact ih hk
  | read =>
   rw [log, forall_mem_cons, map_cons]
   dsimp only
   by_cases hr : 5 ≤ t.reads
   · obtain ⟨hs, first⟩ := read_keeping hk hr
     rw [lasting_cons (m := t.reads) (by omega), first, hs]
     by_cases he : t.fresh.1 = []
     · rw [he, <- hk, ih hk]
       simp
     · -- From here on every reading hands out what this one decoded.
       have all := log_kept (t := { t with kept := t.fresh.1 }) he l
       constructor
       · rintro ⟨ha, hb⟩
         have hn : t.fresh = (t.fresh.1, none) := Prod.ext rfl (ha.resolve_left he)
         have same : ∀ b ∈ (log { t with kept := t.fresh.1 } l).map Prod.fst, b.fresh = (t.fresh.1, none) :=
          forall_mem_map.mpr fun r hm => (hb r hm).symm.trans (all r hm)
         exact ⟨fun _ _ => ⟨congrArg Prod.snd hn, fun b hm => (same b hm).trans hn.symm⟩, lasting_of_same same⟩
       · rintro ⟨ha, -⟩
         obtain ⟨hn, hb⟩ := ha hr he
         have same : t.fresh = (t.fresh.1, none) := Prod.ext rfl hn
         exact ⟨.inr hn, fun r hm => (all r hm).trans ((forall_mem_map.mp hb r hm).trans same).symm⟩
   · have same : t.read = (t.fresh, { t with reads := if 1000 ≤ t.units then 5 else t.reads + 1 }) := by
      simp [read, hk, hr]
     rw [lasting_cons (m := if 1000 ≤ t.units then 5 else t.reads + 1) (by intro k; split <;> omega), same]
     simp only [hr, false_imp_iff, true_and]
     exact ih hk

/-- Readings hand out what decoding afresh would exactly if from the sixth reading on, or from the one after a reading
    of a thousand units on, the first to decode an instruction succeeds, and all that follow would decode the same. -/
theorem readings_fresh_iff (s : Strip) (calls : List Call) : let readings:= logOf ⟨s, 0, []⟩ calls
  (∀ r ∈ readings, r.2 = r.1.fresh) ↔ ∀ xs a ys, readings.map Prod.fst = xs ++ a :: ys ->
   5 ≤ xs.length ∨ (∃ b ∈ xs, 1000 ≤ b.units) -> a.fresh.1 ≠ [] -> a.fresh.2 = none ∧ ∀ b ∈ ys, b.fresh = a.fresh := by
 intro readings
 have main := log_fresh_iff (t := ⟨s, 0, []⟩) rfl (acts ⟨s, 0, []⟩ calls)
 rw [<- logOf_eq] at main
 simpa only [Lasting, Nat.zero_add] using main

set_option maxRecDepth 100000 in
/-- Optimized code that is cut off fails six times, and then has one instruction. -/
theorem failure_forgotten : let t : Tape := ⟨⟨true, 3, [0, 0, 0xff, 0xf2, 0, 0], 0⟩, 0, []⟩
  (logOf t (replicate 7 .iterate)).map (fun r => (r.2.1.length, r.2.2)) =
   replicate 5 (1, some .cutOff) ++ [(0, some .cutOff), (1, none)] := rfl

end DexLens.Dex.Tape
