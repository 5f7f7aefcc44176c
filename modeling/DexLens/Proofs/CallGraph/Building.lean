import DexLens.Proofs.CallGraph.Tables

/-! # Building a call graph cannot fail half-way

A file can be added to any graph when the ends of all its calls are among the methods that call or are called. What
remains is a call that cannot be spelled out, and that is noticed before the graph is touched.
-/

namespace DexLens.CallGraph

open Effect IsTrans

/-- The methods whose nodes are looked up when a file is added. -/
def Facts.ends (f : Facts) : List Sig :=
 f.calls.flatMap (fun c => [c.src, c.dst]) ++ f.called ++
  (f.invokes ++ f.makings ++ f.protected'.map (·.2) ++ f.loads).map (·.src)

namespace Build

variable {ms : List Sig} {cs : List Call}

variable {g : Graph}

/-- All of these methods have nodes. -/
def Present (ms : List Sig) (g : Graph) : Prop := ∀ m ∈ ms, g.HasKey m.key

lemma Present.leads (hv : g.Leads h) (hp : Present ms g) : Present ms h := fun m hm => hv.hasKey (hp m hm)

lemma addCalls_ok (hk : ∀ c ∈ cs, c.src ∈ ms ∧ c.dst ∈ ms)
  (hp : Present ms g) : ∃ h, play (addCalls cs) g = (.ok (), h) ∧ g.Leads h ∧
   ∀ c ∈ cs, h.Joined (·.key = c.src.key) (·.key = c.dst.key) := by
 refine Keeps.forM_ok (P := Present ms) (Q := fun (c : Call) h => h.Joined (·.key = c.src.key) (·.key = c.dst.key))
  .leads (·.grows.joined_keys) (fun c hm g hp => ?_) hp
 have hs := hp _ (hk c hm).1
 have hr := hp _ (hk c hm).2
 have ends := play_addCall hs hr
 refine ⟨_, ends, (moves_addCall c).of_play ends, ?_⟩
 obtain ⟨x, ha, hd⟩ := Graph.at_slot hs
 obtain ⟨y, ht, hn⟩ := Graph.at_slot hr
 exact ⟨_, _, x, y, ha, ht, hd, hn, Digraph.mem_edges_addEdge.mpr (.inr ⟨rfl, rfl⟩)⟩

lemma forM_present {α : Type} {f : α -> Build Unit} {xs : List α}
  (hr : ∀ x ∈ xs, ∀ g, Present ms g -> ∃ h, play (f x) g = (.ok (), h) ∧ g.Leads h) (hp : Present ms g) :
  ∃ h, play (xs.forM f) g = (.ok (), h) ∧ g.Leads h := by
 obtain ⟨h, ends, hv, -⟩ := Keeps.forM_ok .leads (fun _ => id)
  (fun x hm g ht => (hr x hm g ht).imp fun h he => ⟨he.1, he.2, trivial⟩) hp
 exact ⟨h, ends, hv⟩

lemma addClasses_ok (hp : Present ms g) : ∃ h, play (addClasses ms) g = (.ok (), h) ∧ g.Leads h := by
 refine forM_present (fun m hm g ht => ⟨_, play_addClass (ht m hm), ?_⟩) hp
 have hv : g.Leads _ := moves_addClass trivial (ht m hm)
 rwa [play_addClass (ht m hm)] at hv

lemma addMarks_ok (hk : ∀ c ∈ cs, c.src ∈ ms) (hp : Present ms g) (kind : NodeKind) (mark label : String) (real : Bool) :
  ∃ h, play (addMarks kind mark label real cs) g = (.ok (), h) ∧ g.Leads h := by
 refine forM_present (fun c hm g ht => ?_) hp
 have ends := play_addMark (ht _ (hk c hm)) kind mark label real
 exact ⟨_, ends, (moves_addMark trivial label real).of_play ends⟩

lemma addEntries_succeeds (kind : NodeKind) (mark name desc : String) (parts : List String) :
  Succeeds (addEntries kind mark name desc parts) := by
 refine .of_forM fun part _ g => ?_
 by_cases ht : g.HasKey (Sig.key ⟨Descriptor.ofDottedName part, name, desc⟩)
 · exact ⟨_, _, play_addEntry ht kind mark⟩
 · exact ⟨_, _, play_seek_none ht _ _⟩

lemma addParts_succeeds (parts : Option Components) : Succeeds (addParts parts) := by
 cases parts with
 | none => exact .of_pure _
 | some a => exact (addEntries_succeeds _ _ _ _ _).bind fun _ =>
  (addEntries_succeeds _ _ _ _ _).bind fun _ => addEntries_succeeds _ _ _ _ _

lemma addPermissions_succeeds {cs} (hk : ∀ pc ∈ cs, (Permission.level? pc.1).isSome) : Succeeds (addPermissions cs) := by
 refine .of_forM fun pc hm g => ?_
 obtain ⟨level, hl⟩ := Option.isSome_iff_exists.mp (hk pc hm)
 by_cases ht : g.HasKey pc.2.src.key
 · exact ⟨_, _, (play_seek_some ht _ _).trans (play_require_known hl _ _ _ g)⟩
 · exact ⟨_, _, play_seek_none ht _ _⟩

lemma addThreads_succeeds (ts : List ThreadBody) : Succeeds (addThreads ts) := by
 refine .of_forM fun t _ => ?_
 have hn m : Succeeds (methodNode .method m) := fun g => ⟨_, _, play_methodNode _ m g⟩
 exact (hn _).bind fun _ => (hn _).bind fun start => .bind (fun g => ⟨_, _, play_join _ _ g⟩) fun _ =>
  .of_forM fun c _ g => ⟨_, _, play_addConstructor start c g⟩

/-- Every node that is looked up on the way is there once the methods are. -/
lemma addFile_ok (hc : ∀ m ∈ f.ends, m ∈ f.called)
  (hw : ∀ pc ∈ f.protected', (Permission.level? pc.1).isSome) (parts : Option Components) (g : Graph) :
  ∃ start h, play (addMethods f.called) g = (.ok (), start) ∧ Present f.ends start ∧ play (addFile f parts) g = (.ok (), h) ∧
   ∀ c ∈ f.calls, h.Joined (·.key = c.src.key) (·.key = c.dst.key) := by
 have hof : ∀ c ∈ f.calls, c.src ∈ f.called ∧ c.dst ∈ f.called := by
  intro c hm
  have ends : ∀ m ∈ [c.src, c.dst], m ∈ f.called := fun m one =>
   hc m (List.mem_append_left _ (List.mem_append_left _ (List.mem_flatMap.mpr ⟨c, hm, one⟩)))
  exact ⟨ends _ (by simp), ends _ (by simp)⟩
 have hk : ∀ c ∈ f.invokes ++ f.makings ++ f.protected'.map (·.2) ++ f.loads, c.src ∈ f.called :=
  fun c hm => hc _ (List.mem_append_right _ (List.mem_map_of_mem hm))
 have hf : ∀ c ∈ f.invokes, c.src ∈ f.called := fun c hm => hk c (by simp [hm])
 have ho : ∀ c ∈ f.makings, c.src ∈ f.called := fun c hm => hk c (by simp [hm])
 have hol : ∀ c ∈ f.loads, c.src ∈ f.called := fun c hm => hk c (by simp [hm])
 obtain ⟨g₁, hh, hth⟩ := play_addMethods f.called g
 have hp : Present f.called g₁ := hth
 obtain ⟨g₂, hca, moves₂, hj⟩ := addCalls_ok hof hp
 have hr := hp.leads moves₂
 obtain ⟨g₃, hl, hv⟩ := addClasses_ok hr
 have hs := hr.leads hv
 obtain ⟨g₄, hn, hmo⟩ := addMarks_ok hf hs
  .hiddenCall "REFL_INVOKE" "REFLECTION INVOKE" true
 have ht := hs.leads hmo
 obtain ⟨g₅, hi, hmv⟩ := addMarks_ok ho ht
  .hiddenMaking "REFL_NEWINSTANCE" "REFLECTION NEW INSTANCE" true
 obtain ⟨_, g₆, he⟩ := addParts_succeeds parts g₅
 have all : ∀ kind e, f.Makes parts kind e -> True := fun _ _ _ => trivial
 have hme : g₅.Leads g₆ := (moves_addParts all).of_play he
 obtain ⟨_, g₇, hne⟩ := addPermissions_succeeds hw g₆
 have hms : g₆.Leads g₇ := (moves_addPermissions (fun pc hm => .inr (hw pc hm)) fun _ _ => trivial).of_play hne
 have hpr := ((ht.leads hmv).leads hme).leads hms
 obtain ⟨g₈, hlo, moves₈⟩ := addMarks_ok hol hpr
  .load "DEXLOAD" "DYNAMIC CODE LOADING" false
 obtain ⟨_, g₉, hd⟩ := addThreads_succeeds f.threads g₈
 have late : g₂.Leads g₉ := trans _ _ _ hv (trans _ _ _ hmo (trans _ _ _ hmv
  (trans _ _ _ hme (trans _ _ _ hms (trans _ _ _ moves₈
   ((moves_addThreads all).of_play hd))))))
 refine ⟨g₁, g₉, hh, fun m hm => hp m (hc m hm), ?_, fun c hm => late.grows.joined_keys (hj c hm)⟩
 unfold addFile
 rw [play_ok hh, play_ok hca, play_ok hl, play_ok hn,
  play_ok hi, play_ok he, play_ok hne, play_ok hlo, hd]

end Build

end DexLens.CallGraph

namespace DexLens.Dex.File

variable (d : File)

/-- Does the file define a class of this name? -/
def Defines (cls : String) : Prop := ∃ cs, d.classDefs = .ok cs ∧ cls ∈ cs.map ClassDef.title

def OwnsMethod (idx : Nat) : Prop := ∃ names, d.methodSigs idx = .ok names ∧ d.Defines (shown names.cls)

/-- Every method that the file defines belongs to a class that it defines. -/
def Owned : Prop := ∀ rs, d.methods = .ok rs -> ∀ r ∈ rs, d.OwnsMethod (d.methodAt r).idx

instance (d : File) (cls : String) : Decidable (d.Defines cls) :=
 match known : d.classDefs with
 | .ok cs => decidable_of_iff (cls ∈ cs.map ClassDef.title) (by simp [Defines, known])
 | .error _ => .isFalse (by simp [Defines, known])

instance (d : File) (idx : Nat) : Decidable (d.OwnsMethod idx) :=
 match known : d.methodSigs idx with
 | .ok names => decidable_of_iff (d.Defines (shown names.cls)) (by simp [OwnsMethod, known])
 | .error _ => .isFalse (by simp [OwnsMethod, known])

instance (d : File) : Decidable d.Owned :=
 match known : d.methods with
 | .ok rs => decidable_of_iff (∀ r ∈ rs, d.OwnsMethod (d.methodAt r).idx) (by simp [Owned, known])
 | .error _ => .isTrue (by simp [Owned, known])

instance (d : File) (p : Analysis.Path) : Decidable (d.Spells p) := inferInstanceAs (Decidable (_ ∧ _))

lemma OwnsMethod.defines {d : File} (owns : d.OwnsMethod idx)
  (hs : d.spelling? idx = some m) : d.Defines m.1 := by
 obtain ⟨names, hk, hd⟩ := owns
 unfold spelling? methodRef at hs
 unfold methodSigs at hk
 cases ids : d.methodIds with
 | error e => simp [ids, bind, Except.bind] at hk
 | ok ms =>
  simp only [ids, bind, Except.bind, pure, Except.pure, Except.ok.injEq] at hk hs
  subst hk
  cases ha : atPosition? ms idx with
  | none =>
   simp only [ha, Option.some.injEq] at hs hd
   subst hs
   exact hd
  | some x =>
   simp only [ha, Option.elim_some] at hs hd
   split at hs
   · rename_i read
     split at read
     · cases read
       obtain rfl := Option.some.inj hs
       exact hd
     · cases read
   · cases hs

end DexLens.Dex.File

namespace DexLens.CallGraph

open Effect Inspect Analysis.Survey Sample Op View Facts Graph Build

lemma src_defined {w : View} (hl : w.Legible) (ho : w.file.Owned)
  (hw : ∃ rs, w.file.methods = .ok rs ∧ w.usage.Within w.file rs) :
  ∀ p ∈ w.usage.paths, (w.call p).src.cls ∈ w.titles := by
 intro p hm
 obtain ⟨rs, ht, hk⟩ := hw
 obtain ⟨r, hli, hr⟩ := hk p hm
 obtain ⟨m, hs⟩ := Option.isSome_iff_exists.mp (hl p hm).1
 have owns := ho rs ht r hli
 rw [<- hr] at owns
 obtain ⟨cs, hd, hi⟩ := owns.defines hs
 obtain rfl : cs = w.classes := Except.ok.inj (hd.symm.trans w.defined)
 have same : (w.call p).src.cls = m.1 := by
  simp only [call, src, hs, Option.getD_some]
  rfl
 rw [same]
 exact hi

lemma ends_called {w : View} (hy : w.Yields f)
  (hd : ∀ p ∈ w.usage.paths, (w.call p).src.cls ∈ w.titles) : ∀ m ∈ f.ends, m ∈ f.called := by
 have ho : ∀ c, (∃ p ∈ w.usage.paths, w.call p = c) -> c.src ∈ f.called := by
  rintro c ⟨p, hm, rfl⟩
  exact (hy.called _).mpr ⟨p, hm, .inl rfl, hd p hm⟩
 intro m hm
 simp only [ends, List.mem_append, List.mem_flatMap, List.mem_map] at hm
 rcases hm with (⟨c, call, one⟩ | hc) | ⟨c, mark, rfl⟩
 · obtain ⟨p, hk, rfl, hs, ht⟩ := (hy.calls c).mp call
   rcases List.mem_pair.mp one with rfl | rfl
   · exact (hy.called _).mpr ⟨p, hk, .inl rfl, hs⟩
   · exact (hy.called _).mpr ⟨p, hk, .inr rfl, ht⟩
 · exact hc
 · rcases mark with ((hn | hi) | ⟨pc, hne, rfl⟩) | load
   · exact ho c (exists_path_of_found (hy.invokes ▸ hn))
   · exact ho c (exists_path_of_found (hy.makings ▸ hi))
   · exact ho _ (hy.protected' pc hne).2
   · exact ho c (exists_path_of_found (hy.loads ▸ load))

lemma file_refused (needs : Needs) {code v} (hs : full code = .ok v) (hi : ¬ ∀ p ∈ v.usage.paths, code.Spells p)
  (parts : Option Components) (g : Graph) :
  ∃ fault, play ((file code parts).perform needs) g = (.error fault, g) := by
 obtain ⟨cs, hd⟩ := exists_classDefs hs
 have hh := shown_ofSurvey hd hs needs
 obtain ⟨fault, t, hf⟩ := gather_refuses (w := .ofSurvey hd needs.calls v) hi _ hh
 have hc : of needs code = .error fault := by rw [of_surveyed hs, hf]
 refine ⟨fault, ?_⟩
 simp only [perform, hc, play_throw]

namespace Sample

def legible? (place : UInt8) : Option Bool :=
 (full (code place)).toOption.map fun v => decide (∀ p ∈ v.usage.paths, (code place).Spells p)

lemma of_legible? {place b} (hk : legible? place = some b) :
  ∃ v, full (code place) = .ok v ∧ ((∀ p ∈ v.usage.paths, (code place).Spells p) ↔ b = true) := by
 unfold legible? at hk
 cases made : full (code place) with
 | error e => simp [made, Except.toOption] at hk
 | ok v =>
  refine ⟨v, rfl, ?_⟩
  simp only [made, Except.toOption, Option.map_some, Option.some.injEq] at hk
  rw [<- hk, decide_eq_true_iff]

set_option maxRecDepth 100000 in
lemma legible?_spelled : (code 44).Owned ∧ legible? 44 = some true := by decide +kernel

set_option maxRecDepth 100000 in
lemma legible?_unspelled : (code 46).Owned ∧ legible? 46 = some false := by decide +kernel

lemma legible?_eq : ((code 44).Owned ∧ legible? 44 = some true) ∧ (code 46).Owned ∧ legible? 46 = some false :=
 ⟨legible?_spelled, legible?_unspelled⟩

end Sample

/-- A file whose methods belong to its own classes can be added to every graph if its calls can be spelled out, and
    each call between its classes becomes an edge. If a call cannot be spelled out, the graph is left as it is. -/
theorem file_built (needs : Needs) {code : Dex.File} {v : Analysis.Survey}
  (surveyed : full code = .ok v) (owned : code.Owned) (parts : Option Components) (g : Graph) :
  ((∀ p ∈ v.usage.paths, code.Spells p) -> ∃ facts start h, of needs code = .ok facts ∧
   play (addMethods facts.called) g = (.ok (), start) ∧ Present facts.ends start ∧
   play ((file code parts).perform needs) g = (.ok (), h) ∧
   ∀ p ∈ v.usage.paths, ∀ src dst, code.spelling? p.src = some src ->
    code.spelling? (p.dst.getD 0) = some dst -> code.Defines src.1 -> code.Defines dst.1 ->
    h.Joined (·.key = (Sig.ofTriple src).key) (·.key = (Sig.ofTriple dst).key)) ∧
  (¬ (∀ p ∈ v.usage.paths, code.Spells p) -> ∃ fault, play ((file code parts).perform needs) g = (.error fault, g)) := by
 refine ⟨fun hl => ?_, fun hg => file_refused needs surveyed hg parts g⟩
 obtain ⟨cs, hd⟩ := exists_classDefs surveyed
 let w := ofSurvey hd needs.calls v
 have hw := shown_ofSurvey hd surveyed needs
 obtain ⟨facts, ha, hy⟩ := gather_answers (w := w) hl
 have hc : of needs code = .ok facts := by
  obtain ⟨t, ht, -⟩ := ha _ hw
  rw [of_surveyed surveyed, ht]
 have hcl := ends_called hy (src_defined hl owned (full_within surveyed))
 obtain ⟨start, h, hh, hpr, ends, hj⟩ :=
  addFile_ok hcl (fun pc hm => (hy.protected' pc hm).1) parts g
 refine ⟨facts, start, h, hc, hh, hpr, ?_, ?_⟩
 · simp only [perform, hc]
   exact ends
 · intro p hm src dst hsp hp hn hi
   have hs : w.src p = src := by
    change (code.spelling? p.src).getD default = src
    rw [hsp, Option.getD_some]
   have hr : w.dst p = dst := by
    change (code.spelling? (p.dst.getD 0)).getD default = dst
    rw [hp, Option.getD_some]
   have hti : ∀ {cls}, code.Defines cls -> cls ∈ w.titles := by
    rintro cls ⟨cs', hf, hli⟩
    obtain rfl : cs' = cs := Except.ok.inj (hf.symm.trans hd)
    exact hli
   have hca : w.call p ∈ facts.calls := by
    refine (hy.calls _).mpr ⟨p, hm, rfl, ?_, ?_⟩
    · rw [<- hs] at hn
      exact hti hn
    · rw [<- hr] at hi
      exact hti hi
   have edge := hj _ hca
   rw [View.call, hs, hr] at edge
   exact edge

theorem file_built_sample : (code 44).Owned ∧ ∃ facts h, of ⟨[], []⟩ (code 44) = .ok facts ∧
  play ((file (code 44) none).perform ⟨[], []⟩) empty = (.ok (), h) := by
 obtain ⟨⟨ho, hl⟩, -⟩ := legible?_eq
 obtain ⟨v, hs, hp⟩ := of_legible? hl
 obtain ⟨facts, start, h, hc, -, -, ends, -⟩ :=
  (file_built ⟨[], []⟩ hs ho none empty).1 (hp.mpr rfl)
 exact ⟨ho, facts, h, hc, ends⟩

/-- Here the file has no list of parameters for a method that is called. -/
theorem unspelled_not_built : (code 46).Owned ∧ (∃ v, full (code 46) = .ok v) ∧
  ∃ fault, play ((file (code 46) none).perform ⟨[], []⟩) empty = (.error fault, empty) := by
 obtain ⟨-, ho, hi⟩ := legible?_eq
 obtain ⟨v, hs, hp⟩ := of_legible? hi
 exact ⟨ho, ⟨v, hs⟩, file_refused ⟨[], []⟩ hs (by simp [hp]) none empty⟩

end DexLens.CallGraph
