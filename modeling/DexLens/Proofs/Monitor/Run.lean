import DexLens.Proofs.Monitor.Steps

/-! # Runs of a session

A run is any sequence of analyses and messages. What a step did before it failed stays done.
-/

namespace DexLens.Monitor

open CallGraph Effect List Mirror Relation Session Site Watch

variable (srcs : List Site) (x : Site)

/-- What the phone reports. -/
inductive Message where
 | reflected (k : Mirror) (dst : Sig) (stack : List Frame)
 | loaded (path : String) (blob : Bytes) (stack : List Frame)

/-- What can happen to a session. -/
inductive Event where
 | began (path : String) (blob : Bytes)
 | analysed (blob : Bytes)
 | received (m : Message)

def Event.step : Event -> Step Unit
 | .began path blob => begin path blob
 | .analysed blob => analyse blob
 | .received (.reflected k dst stack) => reflected k dst stack
 | .received (.loaded path blob stack) => loaded path blob stack

namespace Session

variable {P : Session -> Prop} {s : Session}

/-- The session that an event leaves. -/
def after (s : Session) (e : Event) : Session := (play e.step s).2

/-- The session that a sequence of events leaves. -/
def run : Session -> List Event -> Session
 | s, [] => s
 | s, e :: es => run (s.after e) es

lemma run_nil (s : Session) : s.run [] = s := rfl

lemma run_cons (s : Session) (e : Event) (es : List Event) : s.run (e :: es) = (s.after e).run es := rfl

lemma counting_gains (s : Session) (path : String) (blob : Bytes) : s.Gains (s.counting path blob) :=
 .of_eq rfl rfl rfl rfl rfl

section

variable (reflected : ∀ {k dst stack s r t}, Reflected k dst stack s (r, t) -> P s -> P t)
  (explained : ∀ {kept stack s b t}, Explained kept stack s (b, t) -> P s -> P t)
include reflected explained

section

variable (analysed : ∀ blob {s}, P s -> P (play (analyse blob) s).2)
  (counted : ∀ path blob {s}, P s -> P (s.counting path blob))
include analysed counted

/-- What analyses, the count of loads and each outcome of a message keep is kept by every message. -/
lemma received_keeps (m : Message) (h : P s) : P (s.after (.received m)) := by
 cases m with
 | reflected k dst stack => exact reflected (reflected_cases k dst stack s) h
 | loaded path blob stack =>
  obtain ⟨b, t, ho, ends⟩ := play_loaded path blob stack s
  have kept : P t := explained ho (counted path blob h)
  change P (play (loaded path blob stack) s).2
  rw [ends]
  split
  · exact analysed blob kept
  · exact kept

/-- What analyses, the count of loads and each outcome of a message keep is kept by every event. -/
lemma after_keeps_steps (began : ∀ path blob {s}, P s -> P (play (begin path blob) s).2) (e : Event) (h : P s) :
  P (s.after e) := by
 cases e with
 | began path blob => exact began path blob h
 | analysed blob => exact analysed blob h
 | received m => exact received_keeps reflected explained analysed counted m h

end

lemma after_keeps (hg : ∀ {s t}, s.Gains t -> P s -> P t) (e : Event) (h : P s) : P (s.after e) :=
 after_keeps_steps reflected explained (fun blob s => hg (analyse_gains blob s))
  (fun path blob s => hg (s.counting_gains path blob)) (fun path blob s => hg (begin_gains path blob s)) e h

end

lemma run_keeps (step : ∀ {s} e, P s -> P (s.after e)) (es : List Event) (h : P s) : P (s.run es) := by
 induction es generalizing s with
 | nil => exact h
 | cons e es ih => exact ih (step e h)

end Session

lemma Session.run_needs (s : Session) (es : List Event) : (s.run es).needs = s.needs := by
 refine run_keeps (P := fun t => t.needs = s.needs) (after_keeps (P := fun t => t.needs = s.needs) ?_ ?_ ?_) es rfl
 · exact fun ho same => ho.needs.trans same
 · exact fun ho same => ho.needs.trans same
 · exact fun hg same => hg.needs.trans same

/-! ## What happens to the books -/

/-- A call is taken off the list of uncovered calls only when a way from its method was seen. -/
inductive Watch.Entry {σ κ : Type} (chosen : List Site -> Site -> Prop) (src : κ -> Sig)
  (w : Watch σ κ) : Watch σ κ -> Prop where
 | found (xs : List Site) : Entry chosen src w (w.foundAll xs)
 | suspect (x : σ) : Entry chosen src w (w.suspect x)
 | cover {c : κ} : c ∉ w.covered -> Entry chosen src w (w.cover c)
 | taken {x : Site} : chosen w.srcs x -> (∃ c ∈ w.covered, src c = x.src) -> Entry chosen src w (w.taken x)

lemma Watch.entries_keep {σ κ : Type} {chosen : List Site -> Site -> Prop} {src : κ -> Sig}
  {P : Watch σ κ -> Prop} (step : ∀ {v w}, Entry chosen src v w -> P v -> P w) {v w}
  (he : ReflTransGen (Entry chosen src) v w) (h : P v) : P w := by
 induction he with
 | refl => exact h
 | tail _ last ih => exact step last ih

/-- The call of interest that messages about reflective calls of its method are taken for. -/
def Site.First : Prop := srcs.find? (fun y => y.src = x.src) = some x

def Site.Shown : Prop := ∃ stack, loadSite srcs stack = some x

/-- The books of a session were led on, entry by entry. -/
structure Session.LedOn (s t : Session) : Prop where
 mirrors : ∀ k : Mirror, ReflTransGen (Entry First Crossing.src) (k.watch s) (k.watch t)
 loads : ReflTransGen (Entry Shown LoadCrossing.src) s.loads t.loads

namespace Session.LedOn

variable {s t : Session} {k : Mirror} {stack : List Frame}

lemma refl (s : Session) : s.LedOn s := ⟨fun _ => .refl, .refl⟩

lemma trans (h : s.LedOn t) (h' : t.LedOn u) : s.LedOn u :=
 ⟨fun k => (h.mirrors k).trans (h'.mirrors k), h.loads.trans h'.loads⟩

lemma of_gains (hg : s.Gains t) : s.LedOn t := by
 refine ⟨fun k => .single ?_, .single ?_⟩
 · obtain ⟨xs, same⟩ := hg.mirrors k
   exact same ▸ .found xs
 · obtain ⟨xs, same⟩ := hg.loads
   exact same ▸ .found xs

lemma of_alter (same : ∀ l : Mirror, l.watch t = l.watch s) (hl : t.loads = s.loads)
  (he : ReflTransGen (Entry First Crossing.src) (k.watch s) (f (k.watch s))) : s.LedOn (k.alter f t) := by
 refine ⟨fun l => ?_, ?_⟩
 · by_cases own : l = k
   · rw [own, watch_alter, same]
     exact he
   · rw [watch_alter_of_ne own, same]
 · rw [loads_alter, hl]

lemma of_reflected {dst r} (ho : Reflected k dst stack s (r, t)) : s.LedOn t := by
 have hc : ∀ {caller x}, k.site? s caller = some x -> First (k.watch s).srcs x := by
  intro caller x hf
  rwa [First, site?_src hf]
 cases ho with
 | unread => exact refl s
 | unexplained => exact of_alter (fun _ => rfl) rfl (.single (.suspect _))
 | again _ hf seen =>
  exact of_alter (fun _ => rfl) rfl
   (.single (.taken (hc hf) ⟨_, seen, (site?_src hf).symm⟩))
 | misread _ _ hu => exact of_alter (fun _ => rfl) rfl (.single (.cover hu))
 | uncharted _ _ hu => exact of_alter (fun _ => watch_graph _ _ _) rfl (.single (.cover hu))
 | charted _ hf hu =>
  exact of_alter (fun _ => watch_graph _ _ _) rfl (.tail (.single (.cover hu))
   (.taken (hc hf)
    ⟨_, mem_append_right _ (mem_singleton_self _), (site?_src hf).symm⟩))

lemma of_explained (ho : Explained kept stack s (b, t)) : s.LedOn t := by
 refine ⟨fun k => by rw [ho.mirrors k], ?_⟩
 cases ho with
 | unexplained => exact .single (.suspect _)
 | again hs seen => exact .single (.taken ⟨stack, hs⟩ ⟨_, seen, rfl⟩)
 | charted hs hu =>
  -- A way that is noted and then taken is the same as one that is taken and then noted.
  exact .tail (.single (.cover hu)) (.taken ⟨stack, hs⟩
   ⟨_, mem_append_right _ (mem_singleton_self _), rfl⟩)

end Session.LedOn

lemma Session.run_ledOn (s : Session) (es : List Event) : s.LedOn (s.run es) :=
 run_keeps (after_keeps (fun ho h => h.trans (.of_reflected ho)) (fun ho h => h.trans (.of_explained ho))
  fun hg h => h.trans (.of_gains hg)) es (.refl s)

/-! ## A specimen

A code file of one method, which creates objects through `Class` and through `Constructor` and then loads code.
-/

namespace Specimen

open Bytes in
def blob : Bytes :=
 -- header
 ofWords [0xa786564, 0x353330, 0, 0, 0, 0, 0, 0, 496, 112, 0x12345678, 0, 0, 396, 8, 112, 5, 144, 1, 164, 0, 0, 4,
  176, 1, 208, 256, 240] ++
 -- offsets of the strings
 ofWords [240, 248, 253, 278, 297, 330, 333, 336] ++
 -- types
 ofWords [1, 2, 3, 4, 5] ++
 -- descriptor
 ofWords [5, 4, 0] ++
 -- methods
 ofWords [0, 6, 1, 0, 2, 7, 3, 7] ++
 -- class
 ofWords [0, 1, 0xffffffff, 0, 0xffffffff, 0, 388, 0] ++
 -- strings
 ofTexts ["<init>", "LA;", "Ldalvik/system/DexFile;", "Ljava/lang/Class;", "Ljava/lang/reflect/Constructor;", "V",
  "m", "newInstance"] ++ [0, 0, 0] ++
 -- code of the method
 [1, 0, 1, 0, 1, 0, 0, 0, 0, 0, 0, 0, 10, 0, 0, 0, 110, 16, 2, 0, 0, 0, 110, 16, 3, 0, 0, 0, 110, 16, 1, 0, 0, 0, 14, 0] ++
 -- members of the class
 [0, 0, 0, 1, 0, 1, 224, 2] ++
 -- map
 ofWords [8, 1, 8, 112, 2, 5, 144, 3, 1, 164, 5, 4, 176, 6, 1, 208, 0x2002, 8, 240, 0x2001, 1, 352, 0x2000, 1, 388]

def method : Sig := ⟨"LA;", "m", "()V"⟩

def byClass : Sig := ⟨"Ljava/lang/Class;", "newInstance", "()V"⟩

def byConstructor : Sig := ⟨"Ljava/lang/reflect/Constructor;", "newInstance", "()V"⟩

def byArguments : Sig := ⟨"Ljava/lang/reflect/Constructor;", "newInstance", "([Ljava/lang/Object;)Ljava/lang/Object;"⟩

def loader : Sig := ⟨"Ldalvik/system/DexFile;", "<init>", "()V"⟩

def created : Sig := ⟨"LB;", "<init>", "()V"⟩

/-- The session that starts with the file, without any rule about permissions. -/
abbrev opened : Session := (start ⟨[], []⟩).run [.began "app" blob]

set_option maxRecDepth 100000 in
lemma opened_books : (play (begin "app" blob) (.start ⟨[], []⟩)).1 = .ok () ∧
  (making.watch opened).srcs = [⟨method, byClass⟩, ⟨method, byConstructor⟩] ∧
  (making.watch opened).uncovered = [⟨method, byClass⟩, ⟨method, byConstructor⟩] ∧
  (making.watch opened).covered = [] ∧
  opened.loads.srcs = [⟨method, loader⟩] ∧
  opened.graph.nodes.all (·.key != Build.markKey method byArguments "REFL_NEWINSTANCE") = true := by
 decide +kernel

lemma opened_first : making.site? opened method = some ⟨method, byClass⟩ := by
 obtain ⟨-, hs, -⟩ := opened_books
 rw [site?, hs]
 rfl

lemma opened_needs : opened.needs = ⟨[], []⟩ := run_needs _ _

lemma opened_grantable (dst : Sig) : Build.Grantable opened.needs.calls dst := by
 intro perm hn
 rw [opened_needs] at hn
 cases hn

end Specimen

end DexLens.Monitor
