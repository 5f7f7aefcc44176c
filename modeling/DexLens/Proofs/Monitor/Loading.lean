import DexLens.Proofs.Lookup
import DexLens.Proofs.Monitor.Run

/-! # How often a content is analysed

No content is analysed twice. The counter that sees to this also counts loads that no call of interest explains and
that are therefore not analysed.
-/

namespace DexLens.Monitor

open CallGraph Effect Session Event Lookup List

variable (d : String) (s : Session)

lemma lookup_put (t : List (String × β)) (k : String) (v : β) (l : String) :
  (put t k v).lookup l = if l = k then some v else t.lookup l := by
 rw [put, Analysis.Usage.lookup_upsert]
 cases t.lookup k <;> rfl

/-- The books about files are as they were. -/
def Session.FilesKept (t : Session) : Prop := t.loadCounts = s.loadCounts ∧ t.dexes = s.dexes

instance : Std.Refl FilesKept := ⟨fun _ => ⟨rfl, rfl⟩⟩

instance : IsTrans Session FilesKept :=
 ⟨fun _ _ _ first second => ⟨second.1.trans first.1, second.2.trans first.2⟩⟩

lemma analyse_filesKept (blob : Bytes) : Keeps FilesKept (analyse blob) :=
 keeps_analyse (keeps_survey (fun _ _ => ⟨rfl, rfl⟩) (fun _ _ => ⟨rfl, rfl⟩) (fun _ _ => ⟨rfl, rfl⟩)
  fun _ _ _ _ => ⟨rfl, rfl⟩) blob

lemma Explained.files (ho : Explained kept stack s (b, t)) : s.FilesKept t := by cases ho <;> exact ⟨rfl, rfl⟩

namespace Session

lemma files_after_began (path : String) (blob : Bytes) : (s.opening path blob).FilesKept (s.after (.began path blob)) := by
 unfold after step
 rw [play_begin]
 refine Keeps.bind (analyse_filesKept blob) (fun _ => .of_modify fun t => ?_) _
 exact ⟨rfl, rfl⟩

lemma files_after_loaded (path : String) (blob : Bytes) (stack : List Frame) :
  (s.counting path blob).FilesKept (s.after (.received (.loaded path blob stack))) := by
 obtain ⟨b, t, he, hp⟩ := play_loaded path blob stack s
 unfold after step
 rw [hp]
 split
 · exact IsTrans.trans _ _ _ he.files (analyse_filesKept blob t)
 · exact he.files

lemma loadsOf_after_began (path : String) (blob : Bytes) (d : String) :
  (s.after (.began path blob)).loadsOf d = if d = digestOf blob then 1 else s.loadsOf d := by
 unfold loadsOf
 rw [(s.files_after_began path blob).1, opening, lookup_put]
 split <;> rfl

lemma loadsOf_after_reflected (k : Mirror) (dst : Sig) (stack : List Frame) (d : String) :
  (s.after (.received (.reflected k dst stack))).loadsOf d = s.loadsOf d := by
 have kept : (s.after (.received (.reflected k dst stack))).loadCounts = s.loadCounts :=
  (reflected_cases k dst stack s).loadCounts
 unfold loadsOf
 rw [kept]

lemma loadsOf_after_loaded (path : String) (blob : Bytes) (stack : List Frame) (d : String) :
  (s.after (.received (.loaded path blob stack))).loadsOf d =
   s.loadsOf d + if d = digestOf blob then 1 else 0 := by
 unfold loadsOf
 rw [(s.files_after_loaded path blob stack).1, counting, lookup_put]
 split
 · rename_i same
   rw [same]
   rfl
 · rfl

end Session

/-- A loaded file is analysed when taking note of the load says so. -/
def Event.analysed? : Event -> Option Bytes
 | .began _ blob | .analysed blob => some blob
 | .received (.reflected ..) => none
 | .received (.loaded path blob stack) =>
  match (play (noteLoad path blob stack) s).1 with
  | .ok true => some blob
  | _ => none

section

variable (path : String) (blob : Bytes) (stack : List Frame)

lemma play_loaded_analysed? (s : Session) : play (loaded path blob stack) s =
   match (received (.loaded path blob stack)).analysed? s with
   | some payload => play (analyse payload) (play (noteLoad path blob stack) s).2
   | none => (.ok (), (play (noteLoad path blob stack) s).2) := by
 obtain ⟨b, t, hn, -⟩ := play_noteLoad path blob stack s
 unfold loaded
 rw [play_ok hn]
 simp only [analysed?, hn]
 cases b && decide (s.loadsOf (digestOf blob) = 0) <;> rfl

lemma analysed?_loaded : (received (.loaded path blob stack)).analysed? s =
   if (loadSite s.loads.srcs stack).isSome ∧ s.loadsOf (digestOf blob) = 0 then some blob else none := by
 obtain ⟨b, t, ht, he⟩ := play_noteLoad path blob stack s
 have hn : b = (loadSite s.loads.srcs stack).isSome := he.found
 simp only [analysed?, ht, hn]
 cases (loadSite s.loads.srcs stack).isSome with
 | false => simp
 | true => by_cases hf : s.loadsOf (digestOf blob) = 0 <;> simp [hf]

end

namespace Session

/-- How many of the events have a content of this digest analysed. -/
def analyses (d : String) : Session -> List Event -> Nat
 | _, [] => 0
 | s, e :: es => (if (e.analysed? s).any (d = digestOf ·) then 1 else 0) + analyses d (s.after e) es

lemma analyses_began (path : String) (blob : Bytes) (es : List Event) : s.analyses d (.began path blob :: es) =
   (if d = digestOf blob then 1 else 0) + (s.after (.began path blob)).analyses d es := by
 simp [analyses, analysed?]

/-- Does a call of interest explain the first load of a content of this digest? -/
def firstExplained (d : String) : Session -> List Message -> Bool
 | _, [] => false
 | s, .reflected k dst stack :: ms => firstExplained d (s.after (.received (.reflected k dst stack))) ms
 | s, .loaded path blob stack :: ms =>
  if d = digestOf blob then (loadSite s.loads.srcs stack).isSome
  else firstExplained d (s.after (.received (.loaded path blob stack))) ms

lemma firstExplained_loaded (path : String) (blob : Bytes) (stack : List Frame) (ms : List Message) :
  s.firstExplained (digestOf blob) (.loaded path blob stack :: ms) =
   (loadSite s.loads.srcs stack).isSome := by simp [firstExplained]

/-- A content that was not loaded before is analysed once if its first load is explained, and never otherwise. -/
lemma analyses_messages (ms : List Message) :
  s.analyses d (ms.map .received) = if s.loadsOf d = 0 ∧ s.firstExplained d ms then 1 else 0 := by
 induction ms generalizing s with
 | nil => simp [analyses, firstExplained]
 | cons m ms ih =>
  rw [map_cons, analyses, ih]
  cases m with
  | reflected k dst stack =>
   rw [loadsOf_after_reflected, firstExplained]
   simp [analysed?]
  | loaded path blob stack =>
   rw [loadsOf_after_loaded, analysed?_loaded, firstExplained]
   by_cases same : d = digestOf blob
   · -- Later loads of this content count for nothing.
     subst same
     by_cases hf : s.loadsOf (digestOf blob) = 0 <;>
      cases (loadSite s.loads.srcs stack).isSome <;> simp [hf]
   · split <;> simp [same]

end Session

/-- A content is analysed once if it is that of the first file, or if a call of interest explains its first load;
    otherwise it is never analysed. -/
theorem analyses_eq (needs : Inspect.Needs) (unpack : Unpacker) (path : String) (blob : Bytes)
  (ms : List Message) (d : String) : let s:= start needs unpack
  s.analyses d (.began path blob :: ms.map .received) =
   if d = digestOf blob ∨ (s.after (.began path blob)).firstExplained d ms then 1 else 0 := by
 intro s
 rw [analyses_began, analyses_messages, loadsOf_after_began]
 have none : s.loadsOf d = 0 := rfl
 by_cases same : d = digestOf blob <;> simp [same, none]

lemma Session.loads_after_unexplained {s : Session} (path : String) (blob : Bytes) {stack : List Frame}
  (hu : loadSite s.loads.srcs stack = none) :
  (s.after (.received (.loaded path blob stack))).loads.srcs = s.loads.srcs := by
 obtain ⟨b, t, hn, he⟩ := play_noteLoad path blob stack s
 have hs : (received (.loaded path blob stack)).analysed? s = none := by simp [analysed?_loaded, hu]
 unfold after step
 simp only [play_loaded_analysed?, hs, hn]
 exact he.srcs

lemma loadSite_nil (srcs : List Site) : loadSite srcs [] = none := rfl

lemma exists_digest_ne (d : String) : ∃ blob, (blob = [] ∨ blob = [0]) ∧ digestOf blob ≠ d := by
 have apart : digestOf [0] ≠ digestOf [] := by decide +kernel
 by_cases same : digestOf [] = d
 · exact ⟨[0], .inr rfl, same ▸ apart⟩
 · exact ⟨[], .inl rfl, same⟩

open Monitor.Specimen in
/-- A content whose first load is not explained is never analysed, even if a later load is. -/
theorem explained_not_analysed :
  ¬ ∀ (needs : Inspect.Needs) (unpack : Unpacker) (path : String) (blob : Bytes) (before later : List Message)
   (file : String) (payload : Bytes) (stack : List Frame),
   let s := start needs unpack
   (loadSite (s.run (.began path blob :: before.map .received)).loads.srcs stack).isSome ->
   s.analyses (digestOf payload)
    (.began path blob :: (before ++ .loaded file payload stack :: later).map .received) = 1 := by
 intro hc
 obtain ⟨-, -, -, -, hs, -⟩ := opened_books
 obtain ⟨payload, -, other⟩ := exists_digest_ne (digestOf blob)
 have he : (loadSite ((start ⟨[], []⟩).run (.began "app" blob ::
   [Message.loaded "a.dex" payload []].map .received)).loads.srcs [frameOf loader, frameOf method]).isSome := by
  unfold opened at hs
  rw [run_cons, run_nil] at hs
  rw [map_cons, map_nil, run_cons, run_cons, run_nil]
  rw [loads_after_unexplained "a.dex" payload (loadSite_nil _), hs]
  decide
 have once := hc ⟨[], []⟩ _ "app" blob [.loaded "a.dex" payload []] [] "a.dex" payload
  [frameOf loader, frameOf method] he
 rw [analyses_began, if_neg other, analyses_messages, singleton_append,
  firstExplained_loaded, loadSite_nil, if_neg (by simp)] at once
 cases once

end DexLens.Monitor
