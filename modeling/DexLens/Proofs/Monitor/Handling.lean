import DexLens.Proofs.CallGraph.Building
import DexLens.Proofs.Monitor.Loading

/-! # Which loaded files are handled

A file that is loaded is read when a call of interest explains its first load. A code file that cannot be read is
left aside; anything else that cannot be read fails, and so does code that is not legible. By then the load has been
noted, but no call of interest.
-/

namespace DexLens.Dex.File

/-- The file can be surveyed, and all calls that are found in it can be spelled out. -/
def Legible (d : File) : Prop := ∃ v, Analysis.Survey.full d = .ok v ∧ ∀ p ∈ v.usage.paths, d.Spells p

end DexLens.Dex.File

namespace DexLens.Monitor

open CallGraph Effect Inspect Session

variable {d : Dex.File} {s t : Session} {parts : Option Components} {blob : Bytes} {kept : String}
 {stack : List Frame}

/-! ## Surveys -/

lemma legible_of_survey (ends : play (survey d parts) s = (.ok (), t)) : d.Legible := by
 obtain ⟨_, _, hf, -⟩ := survey_ok ends
 obtain ⟨v, _, _, made, hl, -⟩ := Facts.of_survey hf
 exact ⟨v, made, hl⟩

/-- A file that is legible and whose methods are its own is surveyed in every session. -/
lemma survey_succeeds (ho : d.Owned) (hl : d.Legible) (parts : Option Components) : Succeeds (survey d parts) := by
 intro s
 obtain ⟨v, made, hs⟩ := hl
 obtain ⟨cs, hd⟩ := View.exists_classDefs made
 obtain ⟨facts, -, hy, hn⟩ := noting_legible made hd s hs
 have hi : ∀ p ∈ v.usage.paths, ((View.ofSurvey hd s.needs.calls v).call p).src.cls ∈
   (View.ofSurvey hd s.needs.calls v).titles :=
  src_defined (w := .ofSurvey hd s.needs.calls v) hs ho (Analysis.Survey.full_within made)
 obtain ⟨_, g, -, -, hb, -⟩ := Build.addFile_ok (ends_called hy hi)
  (fun pc hm => (hy.protected' pc hm).1) parts s.graph
 rw [survey_eq]
 exact ⟨(), _, (play_ok hn).trans (play_build_eq hb)⟩

/-! ## Contents -/

/-- The code of a code file, or of an archive with its parts, if it can be read. -/
def Session.code? (s : Session) (blob : Bytes) : Option (Dex.File × Option Components) :=
 match FileKind.ofBytes? blob with
 | some .dex => (Dex.File.load false false blob).toOption.map fun file => (file, none)
 | some .archive => (s.unpack blob).toOption.map fun opened => (opened.1, some opened.2)
 | _ => none

lemma play_analyse_of_code {file}
  (read : s.code? blob = some (file, parts)) : play (analyse blob) s = play (survey file parts) s := by
 unfold code? at read
 split at read
 · rename_i kind
   simp only [analyse, kind]
   cases hl : Dex.File.load false false blob with
   | error fault => simp [hl, Except.toOption] at read
   | ok file' =>
    simp only [hl, Except.toOption, Option.map_some, Option.some.injEq, Prod.mk.injEq] at read
    rw [read.1, read.2]
 · rename_i kind
   simp only [analyse, kind]
   cases ho : s.unpack blob with
   | error fault => simp [ho, Except.toOption] at read
   | ok opened =>
    simp only [ho, Except.toOption, Option.map_some, Option.some.injEq, Prod.mk.injEq] at read
    rw [play_ok (play_get s), ho, play_ok (play_ofRes _ s), <- read.1, <- read.2]
 · cases read

/-- Without any code to survey the session stays as it is. That is no failure for a code file only. -/
lemma play_analyse_of_none (hu : s.code? blob = none) :
  ∃ r, play (analyse blob) s = (r, s) ∧ (r = .ok () ↔ FileKind.ofBytes? blob = some .dex) := by
 unfold code? at hu
 unfold analyse
 split at hu
 · rename_i kind
   simp only [kind]
   cases hl : Dex.File.load false false blob with
   | error fault => exact ⟨_, rfl, by simp⟩
   | ok file => simp [hl, Except.toOption] at hu
 · rename_i kind
   simp only [kind]
   cases ho : s.unpack blob with
   | error fault => exact ⟨.error fault, by rw [play_ok (play_get s), ho]; rfl, by simp⟩
   | ok opened => simp [ho, Except.toOption] at hu
 · rename_i hc hn
   cases kind : FileKind.ofBytes? blob with
   | none => exact ⟨_, rfl, by simp⟩
   | some k =>
    cases k with
    | dex => exact absurd kind hc
    | archive => exact absurd kind hn
    | _ => exact ⟨_, rfl, by simp⟩

/-! ## Loads -/

lemma Explained.unpack (ho : Explained kept stack s (b, t)) : t.unpack = s.unpack:= by cases ho <;> rfl

/-- Taking note of a load hangs the file below the mark of the call that explains it, or nothing at all. -/
lemma Explained.graph
  (ho : Explained kept stack s (b, t)) : t.graph = s.graph ∨ ∃ x, loadSite s.loads.srcs stack = some x ∧
   t.graph = s.graph.hangBelow (s.graph.slot (Build.markKey x.src x.dst "DEXLOAD"))
    (.blank .loadedFile kept kept false) (.loading kept) := by
 cases ho with
 | unexplained | again => exact .inl rfl
 | @charted x g hs _ ends =>
  by_cases hm : s.graph.HasKey (Build.markKey x.src x.dst "DEXLOAD")
  · rw [Build.play_addLoad_marked hm] at ends
    exact .inr ⟨x, hs, (Prod.mk.inj ends).2.symm⟩
  · rw [Build.addLoad, Build.play_seek_none hm] at ends
    exact .inl (Prod.mk.inj ends).2.symm

/-- There is no need to read it, it can be read and is legible, or it looks like a code file and cannot be read. -/
def Session.Copes (s : Session) (blob : Bytes) (stack : List Frame) : Prop :=
 loadSite s.loads.srcs stack = none ∨ s.loadsOf (digestOf blob) ≠ 0 ∨ match s.code? blob with
  | some (file, _) => file.Legible
  | none => FileKind.ofBytes? blob = some .dex

end DexLens.Monitor
