import DexLens.Proofs.CallGraph.Marks
import DexLens.Proofs.Monitor.Order

/-! # The numbers that are reported

What is reported as the number of reflective calls and of loadings is the number of calls in code. In the call
graph, calls of one method to the same target share their mark.
-/

namespace DexLens.Monitor

open CallGraph Effect Session List Graph Mirror Inspect

/-- With the kind and the key of its marks, the calls found in code and the number that is reported. -/
inductive Interest where
 | reflection (k : Mirror)
 | load

namespace Interest

def kind : Interest -> NodeKind
 | .reflection .invoke => .hiddenCall
 | .reflection .making => .hiddenMaking
 | .load => .load

def key : Interest -> Site -> String
 | .reflection k, x => k.mark x.src x.dst
 | .load, x => Build.markKey x.src x.dst "DEXLOAD"

def srcs : Interest -> Session -> List Site
 | .reflection k, s => (k.watch s).srcs
 | .load, s => s.loads.srcs

def reported : Interest -> Numbers -> Nat
 | .reflection .invoke, n => n.invokes
 | .reflection .making, n => n.makings
 | .load, n => n.loads

lemma reported_numbers (k : Interest) (s : Session) : k.reported s.numbers = (k.srcs s).length := by
 rcases k with (_ | _) | _ <;> rfl

/-- Each of the calls has a mark of its own in the call graph. -/
def OneToOne (k : Interest) (s : Session) : Prop :=
 ((k.srcs s).map k.key).Nodup ∧ ∀ x ∈ k.srcs s, s.graph.Shows k.kind (k.key x)

/-- If a node of this kind marks a call of interest, it marks one that was found. -/
def Known (s : Session) (kind : NodeKind) (key : String) : Prop := ∀ k : Interest, k.kind = kind -> key ∈ (k.srcs s).map k.key

lemma known_other {kind} (h : kind ∉ [.hiddenCall, .hiddenMaking, .load]) {s key} : Known s kind key := by
 rintro ((_ | _) | _) rfl <;> simp [kind] at h

end Interest

open Interest

namespace Session

def Backed (s : Session) : Prop := ∀ (k : Interest), ∀ x ∈ s.graph.nodes, x.kind = k.kind -> x.key ∈ (k.srcs s).map k.key

lemma Backed.of_draws (h : s.Backed) (hd : s.graph.Draws (Known t) t.graph)
  (hs : ∀ k : Interest, k.srcs s ⊆ k.srcs t) : t.Backed := by
 intro k x hm same
 obtain ⟨y, old, kind, key⟩ | hk := hd x hm
 · rw [<- key]
   exact map_subset _ (hs k) (h k y old (kind.trans same))
 · exact hk k same.symm

lemma Backed.of_srcs (h : s.Backed) (hd : s.graph.Draws (Known t) t.graph)
  (hs : ∀ k : Interest, k.srcs t = k.srcs s) : t.Backed := by
 refine h.of_draws hd fun k => ?_
 rw [hs k]
 exact .refl _

end Session

lemma survey_backed (file : Dex.File) (parts : Option Components) : Keeps (HandsOn Backed) (survey file parts) := by
 intro s
 rw [survey_eq]
 refine Keeps.bind_from (keeps_noting ?invoke ?making ?load file s) fun facts t hn => ?added
 case invoke | making | load =>
  refine fun s x h => h.of_draws (refl s.graph) fun k => ?_
  rcases k with (_ | _) | _ <;> simp [Interest.srcs, watch, Watch.found]
 case added =>
  rw [play_build]
  obtain ⟨-, rfl⟩ := noting_ok hn
  -- The calls that marks are made for are among those that were noted just before.
  refine fun h => h.of_draws (Build.moves_addFile (fun _ _ => .inl trivial) ?_ _).draws fun k => ?_
  · intro kind e made k same
    cases made with
    | called => exact known_other (by grind [NodeKind.ofSig]) k same
    | invoke hm | creation hm | load hm =>
     rcases k with (_ | _) | _ <;> cases same
     exact mem_map.mpr ⟨_, mem_append_right _ (mem_map_of_mem hm), rfl⟩
    | _ => exact known_other (by decide) k same
  · rcases k with (_ | _) | _ <;> exact Subset.refl _

lemma analyse_backed (blob : Bytes) : Keeps (HandsOn Backed) (analyse blob) := keeps_analyse survey_backed blob

lemma begin_backed (path : String) (blob : Bytes) : Keeps (HandsOn Backed) (begin path blob) := by
 refine keeps_begin (fun s h => ?_) (analyse_backed blob) fun s h => ?_
 · exact h.of_srcs (refl s.graph) fun k => by rcases k with (_ | _) | _ <;> rfl
 · exact h.of_srcs (refl s.graph) fun k => by rcases k with (_ | _) | _ <;> rfl

lemma Mirror.chart_draws (k : Mirror) (rules : Rules) (src hop dst : Sig)
  (t : Session) : Keeps (Draws (Known t)) (k.chart rules src hop dst) := by
 have moves (kind mark created) (hk : kind ∉ [.hiddenCall, .hiddenMaking, .load]) :
   Keeps (Moves True (Known t)) (Build.addReflected kind mark created rules src hop dst) :=
  Build.moves_addReflected (.inl trivial) (known_other hk) (fun _ => known_other (by decide))
   (fun _ _ => known_other (by decide)) mark src
 cases k with
 | invoke | making => exact fun g => (moves _ _ _ (by decide) g).draws

lemma Reflected.backed (ho : Reflected k dst stack s (r, t)) (h : s.Backed) : t.Backed := by
 refine h.of_srcs ?_ fun l => ?_
 · cases ho with
   | unread => exact refl s.graph
   | unexplained | again | misread =>
    rw [graph_alter]
    exact refl s.graph
   | charted _ _ _ ends | uncharted _ _ _ ends =>
    rw [graph_alter]
    exact (k.chart_draws _ _ _ _ _).of_play ends
 · cases l with
   | reflection l => exact ho.srcs l
   | load => exact congrArg Watch.srcs ho.loads

lemma Explained.backed {kept stack s t b} (ho : Explained kept stack s (b, t)) (h : s.Backed) : t.Backed := by
 refine h.of_srcs ?_ fun l => ?_
 · cases ho with
   | unexplained | again => exact refl s.graph
   | charted _ _ ends => exact ((Build.moves_addLoad (known_other (by decide)) _ _).of_play ends : Moves True _ _ _).draws
 · cases l with
   | reflection l => exact congrArg Watch.srcs (ho.mirrors l)
   | load => exact ho.srcs

lemma Session.backed_after {s : Session} (e : Event) : s.Backed -> (s.after e).Backed :=
 after_keeps_steps Reflected.backed Explained.backed (analyse_backed)
  (fun _ _ s h => h.of_srcs (refl s.graph) fun k => by rcases k with (_ | _) | _ <;> rfl)
  (begin_backed) e

lemma Session.backed_run (needs : Needs) (unpack : Unpacker) (es : List Event) : ((start needs unpack).run es).Backed := by
 have hs : (start needs unpack).Backed := by
  intro k x hm
  cases hm
 exact run_keeps backed_after es hs

lemma analyse_initial (blob : Bytes) (n : Numbers) : Keeps (HandsOn fun s => s.initial = n) (analyse blob) :=
 keeps_analyse (keeps_survey (fun _ _ => id) (fun _ _ => id) (fun _ _ => id) fun _ _ _ _ => id) blob

lemma Session.initial_run (s : Session) (messages : List Message) : (s.run (messages.map .received)).initial = s.initial := by
 induction messages generalizing s with
 | nil => rfl
 | cons m messages ih =>
  refine (ih _).trans (received_keeps (P := fun t => t.initial = s.initial) ?_ ?_ ?_ ?_ m rfl)
  · rintro k dst stack t r u ho h
    cases ho <;> cases k <;> exact h
  · rintro kept stack t b u ho h
    cases ho <;> exact h
  · exact fun blob t => analyse_initial blob _ t
  · exact fun _ _ _ => id

lemma initial_of_begin (ends : (play (begin path blob) s).1 = .ok ()) :
  (s.after (.began path blob)).initial = (s.after (.began path blob)).numbers := by
 have hb := play_begin path blob s
 rcases ha : play (analyse blob) (s.opening path blob) with ⟨outcome, t⟩
 cases outcome with
 | error e =>
  rw [play_error ha] at hb
  rw [hb] at ends
  cases ends
 | ok _ =>
  rw [play_ok ha] at hb
  unfold Session.after Event.step
  rw [hb]
  rfl

/-- The numbers of calls of interest are at least those of the marks in the call graph, and equal exactly when each
    call has a mark of its own. The initial numbers are those when the application was analysed. -/
theorem numbers_eq_marks_iff (needs : Needs) (unpack : Unpacker) (path : String) (blob : Bytes)
  (messages : List Message) : let first:= (start needs unpack).after (.began path blob)
  let last := first.run (messages.map .received)
  (∀ s ∈ [first, last], ∀ k : Interest, s.graph.kindCount k.kind ≤ k.reported s.numbers ∧
   (k.reported s.numbers = s.graph.kindCount k.kind ↔ k.OneToOne s)) ∧
  ((play (begin path blob) (.start needs unpack)).1 = .ok () -> last.initial = first.numbers) := by
 intro first last
 have hc (es : List Event) (k : Interest) : let s := (start needs unpack).run es
   s.graph.kindCount k.kind ≤ k.reported s.numbers ∧ (k.reported s.numbers = s.graph.kindCount k.kind ↔ k.OneToOne s) := by
  have hn := (coherent_run needs unpack es).kindCount_le_and_eq_iff (backed_run needs unpack es k)
  rw [length_map, forall_mem_map] at hn
  intro s
  rw [k.reported_numbers]
  exact hn
 refine ⟨fun s hm k => ?_, fun ends => ?_⟩
 · obtain rfl | rfl : s = first ∨ s = last := by simpa using hm
   · exact hc [.began path blob] k
   · exact hc (.began path blob :: messages.map .received) k
 · exact (first.initial_run messages).trans (initial_of_begin ends)

namespace Specimen

/-- The specimen with a second creation through `Class` in place of the one through `Constructor`. -/
def doubled : Bytes := blob.set 376 2

abbrev creation : Interest := .reflection .making

def twice : Session := (start ⟨[], []⟩).after (.began "app" doubled)

set_option maxRecDepth 100000 in
lemma twice_numbers : (play (begin "app" doubled) (.start ⟨[], []⟩)).1 = .ok () ∧
  creation.reported twice.numbers = 2 ∧ twice.graph.kindCount creation.kind = 1 := by
 decide +kernel

end Specimen

open Monitor.Specimen in
theorem numbers_eq_marks_iff_twice :
  (play (begin "app" doubled) (.start ⟨[], []⟩)).1 = .ok () ∧ creation.reported (twice.run []).initial = 2 ∧
   ¬ creation.OneToOne twice := by
 obtain ⟨ends, hl, hm⟩ := twice_numbers
 obtain ⟨hc, hi⟩ := numbers_eq_marks_iff ⟨[], []⟩ _ "app" doubled []
 refine ⟨ends, ?_, fun hs => ?_⟩
 · rw [<- hl]
   exact congrArg creation.reported (hi ends)
 · have same := (hc twice mem_cons_self creation).2.mpr hs
   rw [hl, hm] at same
   cases same

open Monitor.Specimen in
/-- Two calls of one method to the same target count twice and have one mark. -/
theorem numbers_exceed_marks :
  ¬ ∀ (needs : Needs) (unpack : Unpacker) (path : String) (blob : Bytes) (messages : List Message),
   (∀ m ∈ messages, ∃ path blob stack, m = .loaded path blob stack) ->
   (play (begin path blob) (.start needs unpack)).1 = .ok () -> ∀ k : Interest,
   let first := (start needs unpack).after (.began path blob)
   let last := first.run (messages.map .received)
   k.reported last.initial = first.graph.kindCount k.kind ∧ k.reported last.numbers = last.graph.kindCount k.kind := by
 intro hc
 obtain ⟨ends, hl, hm⟩ := twice_numbers
 have same := (hc ⟨[], []⟩ _ "app" doubled [] (by simp) ends creation).2
 rw [map_nil, run_nil] at same
 change creation.reported twice.numbers = twice.graph.kindCount creation.kind at same
 rw [hl, hm] at same
 cases same

end DexLens.Monitor
