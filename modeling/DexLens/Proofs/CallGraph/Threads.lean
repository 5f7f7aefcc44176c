import DexLens.Proofs.CallGraph.Atlas

/-! # Threads in call graphs

Bodies and constructors of threads are told by how their names begin. So a method whose name only begins like that
of a body is linked as a body is.
-/

namespace DexLens.CallGraph

open Dex Effect Inspect Set

namespace Sig

def starter (m : Sig) : Sig := { m with name := "start" }

/-- The constructor of the same signature. -/
def maker (m : Sig) : Sig := { m with name := "<init>" }

/-- The keys of a link. -/
def keys (e : Sig × Sig) : String × String := (e.1.key, e.2.key)

end Sig

open Sig

/-- The links between methods of threads, when bodies and constructors are told by their names. -/
def threadLinks (cs : List ClassDef) (ms : List Sig) (isBody isConstructor : String -> Prop) :
  Set (Sig × Sig) :=
 {e | ∃ c ∈ cs, c.parent ∈ threadParents ∧ ∃ m ∈ ms, m.cls = c.title ∧ isBody m.name ∧
  (e = (m.starter, m) ∨ ∃ k ∈ ms, k.cls = c.title ∧ isConstructor k.name ∧ e = (k.maker, m.starter))}

/-- The links of a body. -/
def ThreadBody.links (t : ThreadBody) : Set (Sig × Sig) :=
 insert (t.body.starter, t.body) {e | ∃ k ∈ t.constructors, e = (k.maker, t.body.starter)}

lemma ThreadBody.exists_links_among : (∃ t ∈ ThreadBody.among cs ms, e ∈ t.links) ↔
   e ∈ threadLinks cs ms (Text.startsWith · "run") (Text.startsWith · "<init>") := by
 constructor
 · rintro ⟨t, hm, hl⟩
   obtain ⟨c, ht, hm⟩ := List.mem_flatMap.mp hm
   obtain ⟨hk, hp⟩ := List.mem_filter.mp ht
   obtain ⟨m, body, rfl⟩ := List.mem_map.mp hm
   obtain ⟨own, hb⟩ := List.mem_filter.mp body
   rw [Bool.and_eq_true, beq_iff_eq] at hb
   refine ⟨c, hk, List.contains_iff_mem.mp hp, m, own, hb.2, hb.1, hl.imp id ?_⟩
   rintro ⟨k, made, rfl⟩
   obtain ⟨own, hb⟩ := List.mem_filter.mp made
   rw [Bool.and_eq_true, beq_iff_eq] at hb
   exact ⟨k, own, hb.2, hb.1, rfl⟩
 · rintro ⟨c, hk, hp, m, own, cls, hb, hl⟩
   refine ⟨_, List.mem_flatMap.mpr ⟨c, List.mem_filter.mpr ⟨hk, List.contains_iff_mem.mpr hp⟩,
    List.mem_map.mpr ⟨m, List.mem_filter.mpr ⟨own, by simp [hb, cls]⟩, rfl⟩⟩, hl.imp id ?_⟩
   rintro ⟨k, own, cls, hb, rfl⟩
   exact ⟨k, List.mem_filter.mpr ⟨own, by simp [hb, cls]⟩, rfl⟩

/-- Exactly when no body has a longer name, and when each constructor of a class with a body comes with one of the
    same signature whose name is not longer. -/
lemma threadLinks_eq_iff (cs : List ClassDef) (ms : List Sig) :
  threadLinks cs ms (Text.startsWith · "run") (Text.startsWith · "<init>") = threadLinks cs ms (· = "run") (· = "<init>") ↔
   ∀ c ∈ cs, c.parent ∈ threadParents -> ∀ m ∈ ms, m.cls = c.title -> Text.startsWith m.name "run" ->
    m.name = "run" ∧ ∀ k ∈ ms, k.cls = c.title -> Text.startsWith k.name "<init>" -> k.maker ∈ ms := by
 have ha (a b : Sig) : a.starter ≠ b.maker := fun same => by simp [starter, maker] at same
 constructor
 · intro same c hk hp m own cls hb
   have hw := same.le
   refine ⟨?_, fun k own' cls' hg => ?_⟩
   · obtain ⟨-, -, -, m', -, -, he, hl | ⟨k, -, -, -, hl⟩⟩ := hw ⟨c, hk, hp, m, own, cls, hb, .inl rfl⟩
     · rwa [(Prod.mk.inj hl).2]
     · exact absurd (Prod.mk.inj hl).1 (ha m k)
   · obtain ⟨-, -, -, m', -, -, -, hl | ⟨k', own', -, hn, hl⟩⟩ :=
      hw ⟨c, hk, hp, m, own, cls, hb, .inr ⟨k, own', cls', hg, rfl⟩⟩
     · exact absurd (Prod.mk.inj hl).1.symm (ha m' k)
     · rw [(Prod.mk.inj hl).1]
       obtain ⟨_, _, _⟩ := k'
       subst hn
       exact own'
 · intro hpl
   refine Set.Subset.antisymm ?_ ?_
   · rintro e ⟨c, hk, hp, m, own, cls, hb, hl⟩
     obtain ⟨hn, made⟩ := hpl c hk hp m own cls hb
     refine ⟨c, hk, hp, m, own, cls, hn, hl.imp id ?_⟩
     rintro ⟨k, own', cls', hg, rfl⟩
     exact ⟨k.maker, made k own' cls' hg, cls', rfl, rfl⟩
   · rintro e ⟨c, hk, hp, m, own, cls, hn, hl⟩
     refine ⟨c, hk, hp, m, own, cls, by rw [hn]; rfl, hl.imp id ?_⟩
     rintro ⟨k, own', cls', hm, hl⟩
     exact ⟨k, own', cls', by rw [hm]; rfl, hl⟩

lemma Facts.threads_of (hf : Facts.of needs code = .ok facts) : ∃ cs rs, code.classDefs = .ok cs ∧ code.methods = .ok rs ∧
   facts.threads = ThreadBody.among cs (rs.map fun r => .of (code.methodAt r)) := by
 obtain ⟨v, cs, hd, -, -, hy⟩ := of_survey hf
 exact ⟨cs, _, hd, (View.ofSurvey hd needs.calls v).methods_eq, hy.threads⟩

/-! ## Links are laid as the facts say -/

namespace Build

variable {g : Graph}

lemma linked_addConstructors (hc : g.Coherent) (ht : g.HasKey start.key)
  (ks : List Sig) : ∃ h, play (ks.forM (addConstructor (g.slot start.key))) g = (.ok (), h) ∧ h.Coherent ∧
   h.atlas.linked = g.atlas.linked ∪ keys '' {e | ∃ k ∈ ks, e = (k.maker, start)} := by
 induction ks generalizing g with
 | nil => exact ⟨g, rfl, hc, by simp⟩
 | cons k ks ih =>
  let x := Node.ofMethod .constructor k.maker
  let g' := g.standAbove (g.slot start.key) x id
  have hh : g'.Coherent := hc.standAbove (Graph.slot_lt_iff.mpr ht) x Node.tells_id
  have slot : g'.slot start.key = g.slot start.key := hc.slot_touch Node.tells_id (.inl ht)
  obtain ⟨h, ends, hs, hl⟩ := ih hh ((Graph.Grows.touch g x Node.tells_id).hasKey ht)
  rw [slot] at ends
  refine ⟨h, (play_ok (play_addConstructor _ k g)).trans ends, hs, ?_⟩
  have laid : g'.atlas.linked = insert (k.maker.key, start.key) g.atlas.linked :=
   congrArg Atlas.linked (hc.atlas_standAbove ht x Node.tells_id)
  rw [hl, laid]
  ext e
  simp only [mem_union, mem_insert_iff, mem_image, mem_ofPred_eq, List.mem_cons]
  grind [keys]

lemma linked_addThread (hc : g.Coherent) (t : ThreadBody) : ∃ h, play (addThread t) g = (.ok (), h) ∧
  h.Coherent ∧ h.atlas.linked = g.atlas.linked ∪ keys '' t.links := by
 let x := Node.ofMethod .method t.body
 let y := Node.ofMethod .method t.body.starter
 let a := g.touch x id
 let b := a.standAbove (a.slot x.key) y id
 have hk : a.HasKey x.key := g.hasKey_touch x Node.tells_id
 have ht : a.Coherent := hc.touch x Node.tells_id
 have hh : b.Coherent := ht.standAbove (Graph.slot_lt_iff.mpr hk) y Node.tells_id
 have hs : b.HasKey t.body.starter.key := a.hasKey_touch y Node.tells_id
 obtain ⟨h, ends, hn, hl⟩ := linked_addConstructors hh hs t.constructors
 refine ⟨h, ?_, hn, ?_⟩
 · have slot : a.slot x.key = g.slot x.key := hc.slot_touch Node.tells_id (.inr rfl)
   have hsl : b.slot t.body.starter.key = a.slot t.body.starter.key :=
    ht.slot_touch Node.tells_id (.inr rfl)
   have hj : b = (a.ensure y).join (a.slot y.key) (g.slot x.key) := by
    rw [<- slot, <- a.touch_id y]
    rfl
   unfold addThread
   rw [play_ok (play_methodNode _ _ g), play_ok (play_methodNode _ _ _), play_ok (play_join _ _ _),
    <- ends, hsl, hj, <- g.touch_id x]
   rfl
 · have laid : b.atlas.linked = insert (y.key, x.key) g.atlas.linked := by
    rw [ht.atlas_standAbove hk y Node.tells_id, hc.atlas_touch x Node.tells_id]
    rfl
   rw [hl, laid, ThreadBody.links, image_insert_eq, insert_union, union_insert]
   rfl

lemma linked_addThreads (hh : g.Coherent) (ts : List ThreadBody) :
  ∃ h, play (addThreads ts) g = (.ok (), h) ∧ h.atlas.linked = g.atlas.linked ∪ keys '' {e | ∃ t ∈ ts, e ∈ t.links} := by
 induction ts generalizing g with
 | nil => exact ⟨g, rfl, by simp⟩
 | cons t ts ih =>
  obtain ⟨g', hf, hc, hn⟩ := linked_addThread hh t
  obtain ⟨h, ends, hl⟩ := ih hc
  refine ⟨h, (play_ok hf).trans ends, ?_⟩
  rw [hl, hn, union_assoc, <- image_union]
  congr 2
  ext e
  simp

/-- A file is added as if it had no threads, and then its threads are. -/
lemma addFile_eq (f : Facts) (parts : Option Components) :
  addFile f parts = addFile { f with threads := [] } parts >>= fun _ => addThreads f.threads := by
 simp only [addFile, bind_assoc]
 rfl

end Build

lemma perform_file (hf : Facts.of needs code = .ok facts)
  (parts : Option Components) : (Op.file code parts).perform needs = Build.addFile facts parts := by
 simp only [Op.perform, hf]

/-- The links of methods that begin like bodies and constructors are laid after all others. They are the links of
    bodies and constructors exactly when every name that begins like that of a body is that of a body, and when no
    constructor is made up. -/
theorem thread_links_exact_iff {needs : Needs} {code : File} {facts : Facts} (found : Facts.of needs code = .ok facts) :
  ∃ cs rs, code.classDefs = .ok cs ∧ code.methods = .ok rs ∧ let ms := rs.map fun r => Sig.of (code.methodAt r)
   let laid := threadLinks cs ms (Text.startsWith · "run") (Text.startsWith · "<init>")
   (∀ parts g, g.Coherent -> ∀ r others, play (Build.addFile { facts with threads := [] } parts) g = (r, others) ->
    ∃ h, play ((Op.file code parts).perform needs) g = (r, h) ∧
     h.atlas.linked = if r.isOk then others.atlas.linked ∪ keys '' laid else others.atlas.linked) ∧
   (laid = threadLinks cs ms (· = "run") (· = "<init>") ↔
    ∀ c ∈ cs, c.parent ∈ threadParents -> ∀ m ∈ ms, m.cls = c.title -> Text.startsWith m.name "run" ->
     m.name = "run" ∧ ∀ k ∈ ms, k.cls = c.title -> Text.startsWith k.name "<init>" -> k.maker ∈ ms) := by
 obtain ⟨cs, rs, defined, listed, threads⟩ := Facts.threads_of found
 obtain ⟨w, yields⟩ := Facts.yields_of found
 refine ⟨cs, rs, defined, listed, fun parts g coherent r others plain => ?_, threadLinks_eq_iff _ _⟩
 rw [perform_file found, Build.addFile_eq]
 cases r with
 | error e => exact ⟨others, play_error plain, rfl⟩
 | ok u =>
  have moves := (Build.leads_addFile (f := { facts with threads := [] })
   (fun pc member => (yields.protected' pc member).1) parts).of_play plain
  obtain ⟨h, ends, linked⟩ := Build.linked_addThreads (moves.keep Graph.Move.coherent coherent) facts.threads
  refine ⟨h, (play_ok plain).trans ends, linked.trans ?_⟩
  rw [threads]
  simp only [ThreadBody.exists_links_among]
  rfl

/-! ## A specimen

A code file of one class of threads, with a constructor, a method that calls itself, and a method whose name begins
like that of a body and ends in a quotation mark.
-/

namespace Specimen

open Bytes in
def blob : Bytes :=
 -- header
 ofWords [0xa786564, 0x353330, 0, 0, 0, 0, 0, 0, 572, 112, 0x12345678, 0, 0, 436, 8, 112, 4, 144, 2, 160, 0, 0, 3,
  184, 1, 208, 332, 240] ++
 -- offsets of the strings
 ofWords [310, 318, 323, 374, 394, 397, 401, 412] ++
 -- types
 ofWords [1, 2, 3, 4] ++
 -- descriptors
 ofWords [4, 3, 0, 5, 3, 240] ++
 -- methods
 ofWords [0, 0, 0x10000, 6, 0, 7] ++
 -- class
 ofWords [0, 1, 2, 0, 0xffffffff, 0, 418, 0] ++
 -- parameters
 ofWords [1, 1] ++
 -- code
 [1, 0, 1, 0, 0, 0, 0, 0, 0, 0, 0, 0, 1, 0, 0, 0, 14, 0, 0, 0, 2, 0, 2, 0, 1, 0, 0, 0, 0, 0, 0, 0, 4, 0, 0, 0, 110,
  32, 1, 0, 16, 0, 14, 0, 1, 0, 1, 0, 0, 0, 0, 0, 0, 0, 0, 0, 1, 0, 0, 0, 14, 0] ++
 -- strings
 ofTexts ["<init>", "LA;", "Landroid/content/Context;Landroid/content/Intent;", "Ljava/lang/Thread;", "V", "VL",
  "onReceive", "run\""] ++
 -- methods of the class
 [0, 0, 1, 2, 0, 129, 128, 4, 248, 1, 1, 1, 140, 2, 1, 1, 164, 2] ++
 -- map
 ofWords [11, 0, 1, 0, 1, 8, 112, 2, 4, 144, 3, 2, 160, 5, 3, 184, 6, 1, 208, 0x1001, 1, 240, 0x2001, 3, 248, 0x2002,
  8, 310, 0x2000, 1, 418, 0x1000, 1, 436]

def code : File := (File.load false false blob).toOption.getD default

def receive : Sig := ⟨"LA;", "onReceive", "(Landroid/content/Context;Landroid/content/Intent;)V"⟩

def body : Sig := ⟨"LA;", "run\"", "()V"⟩

def facts : Facts where
 called := [receive]
 calls := [⟨receive, receive, 0⟩]
 invokes := []
 makings := []
 loads := []
 protected' := []
 threads := [⟨body, [body.maker]⟩]

set_option maxRecDepth 100000 in
lemma facts_of : Facts.of ⟨[], []⟩ code = .ok facts := by
 have hf : (Facts.of ⟨[], []⟩ code).toOption = some facts := by decide +kernel
 cases ends : Facts.of ⟨[], []⟩ code with
 | error fault =>
  rw [ends] at hf
  cases hf
 | ok f =>
  rw [ends] at hf
  exact congrArg Except.ok (Option.some.inj hf)

end Specimen

instance (g : Graph) (e : String × String) : Decidable (e ∈ g.atlas.linked) :=
 inferInstanceAs (Decidable ((g.slot e.1, g.slot e.2) ∈ g.links.edges))

theorem specimen_thread_links : ∃ cs rs others h, Specimen.code.classDefs = .ok cs ∧ Specimen.code.methods = .ok rs ∧
  play (Build.addFile { Specimen.facts with threads := [] } none) Graph.empty = (.ok (), others) ∧
  play ((Op.file Specimen.code none).perform ⟨[], []⟩) Graph.empty = (.ok (), h) ∧
  h.atlas.linked = others.atlas.linked ∪ keys '' threadLinks cs (rs.map fun r => .of (Specimen.code.methodAt r))
   (Text.startsWith · "run") (Text.startsWith · "<init>") := by
 obtain ⟨cs, rs, defined, listed, laid, -⟩ := thread_links_exact_iff Specimen.facts_of
 obtain ⟨h, ends, linked⟩ := laid none Graph.empty .empty _ _ rfl
 exact ⟨cs, rs, _, h, defined, listed, rfl, ends, linked⟩

/-- No method of the specimen is called as a body is. One is linked to its start all the same. -/
theorem longer_body_linked : ∃ cs rs, Specimen.code.classDefs = .ok cs ∧ Specimen.code.methods = .ok rs ∧
  threadLinks cs (rs.map fun r => .of (Specimen.code.methodAt r)) (· = "run") (· = "<init>") = ∅ ∧
  keys (Specimen.body.starter, Specimen.body) ∈
   (play ((Op.file Specimen.code none).perform ⟨[], []⟩) Graph.empty).2.atlas.linked ∧
  keys (Specimen.body.starter, Specimen.body) ∉
   (play (Build.addFile { Specimen.facts with threads := [] } none) Graph.empty).2.atlas.linked := by
 obtain ⟨cs, rs, hd, hs, threads⟩ := Facts.threads_of Specimen.facts_of
 refine ⟨cs, rs, hd, hs, eq_empty_of_forall_notMem ?_, ?_, ?_⟩
 · rintro e ⟨c, hk, hp, m, own, cls, hn, -⟩
   obtain ⟨t, hm, hl⟩ := ThreadBody.exists_links_among.mpr
    ⟨c, hk, hp, m, own, cls, by rw [hn]; rfl, .inl rfl⟩
   rw [<- threads] at hm
   obtain rfl := List.mem_singleton.mp hm
   rcases hl with same | ⟨k, -, same⟩
   · rw [(Prod.mk.inj same).2] at hn
     exact absurd hn (by decide)
   · simp [starter, maker] at same
 · rw [perform_file Specimen.facts_of]
   decide +kernel
 · decide +kernel

end DexLens.CallGraph
