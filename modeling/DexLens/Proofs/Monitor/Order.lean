import DexLens.Proofs.CallGraph.Atlas
import DexLens.Proofs.Monitor.Run

/-! # The order of messages

Which number a node gets, and where an entry stands in the books, depends on the order of messages. An outlook shows
a session without either: its call graph as an atlas, its books as multisets. On outlooks messages commute as long
as names have no blanks and nothing is both invoked and created.
-/

namespace DexLens.Monitor

open CallGraph Effect Function List Permission Mirror Session

variable {s t : Session} {stack : List Frame} {m : Sighting} {hop caller : Frame}

/-! ## The call graph of a session is coherent -/

def Session.Moved (s t : Session) : Prop := s.graph.Leads t.graph

instance : Std.Refl Session.Moved := ⟨fun s => refl s.graph⟩

instance : IsTrans Session Session.Moved := ⟨fun _ _ _ first second => .trans first second⟩

lemma Session.Moved.coherent (hm : s.Moved t) : s.graph.Coherent -> t.graph.Coherent := Graph.Moves.coherent hm

lemma analyse_moved (blob : Bytes) : Keeps Session.Moved (analyse blob) := by
 refine keeps_analyse (keeps_survey ?_ ?_ ?_ ?_) blob
 · exact fun s _ => refl s.graph
 · exact fun s _ => refl s.graph
 · exact fun s _ => refl s.graph
 · rintro s facts parts ⟨w, hy⟩
   exact Build.leads_addFile (fun pc hm => (hy.protected' pc hm).1) parts s.graph

lemma begin_moved (path : String) (blob : Bytes) : Keeps Session.Moved (begin path blob) :=
 keeps_begin (fun s => refl s.graph) (analyse_moved blob) fun s => refl s.graph

lemma Mirror.chart_changes (k : Mirror) (rules : Rules) (src hop dst : Sig) :
  Keeps Graph.Changes (k.chart rules src hop dst) := by
 cases k <;> exact Build.changes_addReflected _ _ _ _ _ _ _

lemma Reflected.coherent (ho : Reflected k dst stack s (r, t)) (hb : s.graph.Coherent) : t.graph.Coherent := by
 cases ho with
 | unread => exact hb
 | unexplained | again | misread =>
  rw [graph_alter]
  exact hb
 | charted _ _ _ ends | uncharted _ _ _ ends =>
  rw [graph_alter]
  exact ((k.chart_changes _ _ _ _).of_play ends).coherent hb

lemma Explained.moved (ho : Explained kept stack s (b, t)) : s.Moved t := by
 cases ho with
 | unexplained | again => exact refl s.graph
 | charted _ _ ends => exact (Build.leads_addLoad _ _ _).of_play ends

lemma Session.coherent_after (e : Event) : s.graph.Coherent -> (s.after e).graph.Coherent :=
 after_keeps_steps Reflected.coherent (fun ho => ho.moved.coherent)
  (fun blob s => (analyse_moved blob s).coherent) (fun _ _ _ => id)
  (fun path blob s => (begin_moved path blob s).coherent) e

lemma Session.coherent_run (needs : Inspect.Needs) (unpack : Unpacker) (es : List Event) :
  ((start needs unpack).run es).graph.Coherent :=
 run_keeps (P := fun s => s.graph.Coherent) coherent_after es .empty

/-! ## Readings -/

/-- A reflective call that is reported. -/
structure Sighting where
 kind : Mirror
 dst : Sig
 stack : List Frame

def Sighting.event (m : Sighting) : Event := .received (.reflected m.kind m.dst m.stack)

/-- What a message comes to, given the calls of interest. -/
inductive Reading where
 | nothing
 | suspicion (x : Suspicion)
 | way (site : Site) (c : Crossing)

/-- How a message is read. -/
def Sighting.reading (srcs : Mirror -> List Site) (m : Sighting) : Reading :=
 match crossings m.kind.shows m.stack with
 | .error _ => .nothing
 | .ok (hop, caller) =>
  match (srcs m.kind).find? fun x => frameOf x.src == caller with
  | none => .suspicion ⟨hop, m.dst, m.stack⟩
  | some x => .way x ⟨x.src, hop, m.dst⟩

/-- The books of a kind, without the order of their entries. -/
@[ext]
structure Tally where
 uncovered : Multiset Site
 suspicious : Multiset Suspicion
 covered : Multiset Crossing

def Crossing.legible (c : Crossing) : Bool := (methodOf c.hop).isOk

/-- Note what was read. -/
def Tally.note (t : Tally) : Reading -> Tally
 | .nothing => t
 | .suspicion x => { t with suspicious := t.suspicious + {x} }
 | .way x c =>
  { t with
    uncovered := if c ∈ t.covered ∨ c.legible then t.uncovered.erase x else t.uncovered
    covered := if c ∈ t.covered then t.covered else t.covered + {c} }

namespace Tally

variable (t : Tally) (x : Site)

lemma uncovered_way (c : Crossing) : (t.note (.way x c)).uncovered =
  if c ∈ t.covered ∨ c.legible then t.uncovered.erase x else t.uncovered := rfl

lemma covered_way (c : Crossing) : (t.note (.way x c)).covered = if c ∈ t.covered then t.covered else t.covered + {c} := rfl

lemma mem_covered_note (ho : ∀ x, r ≠ .way x c) : c ∈ (t.note r).covered ↔ c ∈ t.covered := by
 cases r with
 | nothing | suspicion => rfl
 | way x d =>
  have ne : c ≠ d := fun same => ho x (same ▸ rfl)
  rw [covered_way]
  split
  · rfl
  · simp [ne]

lemma note_comm (ha : ∀ x y c, r = .way x c -> r' ≠ .way y c) : (t.note r).note r' = (t.note r').note r := by
 cases r with
 | nothing => rfl
 | suspicion x =>
  cases r' with
  | nothing | way => rfl
  | suspicion y => exact Tally.ext rfl (add_right_comm _ _ _) rfl
 | way x c =>
  cases r' with
  | nothing | suspicion => rfl
  | way y d =>
   have hf : c ∈ (t.note (.way y d)).covered ↔ c ∈ t.covered := t.mem_covered_note fun y' same => ha x y' c rfl same
   have hs : d ∈ (t.note (.way x c)).covered ↔ d ∈ t.covered := t.mem_covered_note fun x' same => ha x' y d same rfl
   refine Tally.ext ?_ rfl ?_
   · rw [uncovered_way (t.note (.way x c)), uncovered_way (t.note (.way y d))]
     simp only [hf, hs]
     rw [uncovered_way, uncovered_way]
     split_ifs
     · exact t.uncovered.erase_comm x y
     all_goals rfl
   · rw [covered_way (t.note (.way x c)), covered_way (t.note (.way y d))]
     simp only [hf, hs]
     rw [covered_way, covered_way]
     split_ifs
     · rfl
     · rfl
     · rfl
     · exact add_right_comm _ _ _

end Tally

namespace Mirror

variable {src hop dst : Sig} {s : Atlas.Strand} (k : Mirror)

/-- What charting such a call lays. -/
def strands : Mirror -> Rules -> Sig -> Sig -> Sig -> List Atlas.Strand
 | .invoke => Atlas.Strand.reflected .method "REFL_INVOKE" false
 | .making => Atlas.Strand.reflected .constructor "REFL_NEWINSTANCE" true

/-- The kind of node that the target of such a call gets. -/
def targetKind : Mirror -> NodeKind
 | .invoke => .method
 | .making => .constructor

lemma of_strands {k : Mirror} {rules : Rules}
  (hm : s ∈ k.strands rules src hop dst) : s.Of k.targetKind hop dst := by
 cases k <;> exact Atlas.Strand.of_reflected hm

lemma atlas_chart (hg : ∀ rule ∈ rules, (level? rule.2).isSome) (hc : g.Coherent) (src hop dst : Sig) :
  ∃ h, play (k.chart rules src hop dst) g = (.ok (), h) ∧
   h.atlas = g.atlas.chart (k.mark src hop) (k.strands rules src hop dst) := by
 cases k <;> exact Build.atlas_addReflected hg hc ..

lemma ne_mark {l : Mirror} {rules : Rules} {source' through' : Sig}
  (hm : s ∈ l.strands rules source' through' dst) (free : src.Tight ∧ hop.Tight)
  (hf : through'.Tight ∧ dst.Tight) : k.mark src hop ≠ s.node.key := by
 cases k
 · exact (of_strands hm).ne_mark hf free.1 free.2 (by decide)
 · exact (of_strands hm).ne_mark hf free.1 free.2 (by decide)

end Mirror

/-- Chart a way on an atlas. -/
def Crossing.draw (rules : Rules) (k : Mirror) (c : Crossing) (a : Atlas) : Atlas :=
 match methodOf c.hop with
 | .error _ => a
 | .ok via => a.chart (k.mark c.src via) (k.strands rules c.src via c.dst)

/-- A way none of whose names has a blank. -/
structure Crossing.Tight (c : Crossing) : Prop where
 src : c.src.Tight
 hop : ∀ via, methodOf c.hop = .ok via -> via.Tight
 dst : c.dst.Tight

lemma Crossing.draw_comm (rules : Rules) {k l : Mirror} {c d : Crossing} (hc : c.Tight)
  (hd : d.Tight) (ha : c.dst = d.dst -> k = l) (a : Atlas) :
  d.draw rules l (c.draw rules k a) = c.draw rules k (d.draw rules l a) := by
 unfold draw
 cases read : methodOf c.hop with
 | error e => rfl
 | ok via =>
  cases hr : methodOf d.hop with
  | error e => rfl
  | ok via' =>
   have free := hc.hop via read
   have hf := hd.hop via' hr
   refine a.chart_comm (fun s hm t hb => ?_) (fun t hm => ?_) fun s hm => ?_
   · exact (of_strands hm).agree (of_strands hb) ⟨free, hc.dst⟩
      ⟨hf, hd.dst⟩ fun same => congrArg _ (ha same)
   · exact k.ne_mark hm ⟨hc.src, free⟩ ⟨hf, hd.dst⟩
   · exact l.ne_mark hm ⟨hd.src, hf⟩ ⟨free, hc.dst⟩

/-! ## Outlooks -/

/-- Chart what was read on an atlas. -/
def Reading.draw (rules : Rules) (k : Mirror) (r : Reading) (a : Atlas) : Atlas :=
 match r with
 | .way _ c => c.draw rules k a
 | _ => a

/-- There is nothing to chart, or nothing that was not charted before. -/
def Tally.Knows (t : Tally) : Reading -> Prop
 | .way _ c => c ∈ t.covered
 | _ => True

instance (t : Tally) (r : Reading) : Decidable (t.Knows r) :=
 match r with
 | .nothing | .suspicion _ => .isTrue trivial
 | .way _ c => inferInstanceAs (Decidable (c ∈ t.covered))

/-- A session without the numbers of its nodes and without the order of its books. -/
@[ext]
structure Outlook where
 atlas : Atlas
 tally : Mirror -> Tally

namespace Outlook

/-- Note what was read of a call, and chart it if it is new. -/
def note (rules : Rules) (o : Outlook) (k : Mirror) (r : Reading) : Outlook where
 atlas := if (o.tally k).Knows r then o.atlas else r.draw rules k o.atlas
 tally := update o.tally k ((o.tally k).note r)

variable {rules : Rules} {k l : Mirror} {r r' : Reading} (o : Outlook)

lemma atlas_note : (o.note rules k r).atlas = if (o.tally k).Knows r then o.atlas else r.draw rules k o.atlas := rfl

variable (ha : k = l -> ∀ x y c, r = .way x c -> r' ≠ .way y c)

include ha

lemma knows_note : ((o.note rules k r).tally l).Knows r' ↔ (o.tally l).Knows r' := by
 cases r' with
 | nothing | suspicion => rfl
 | way y d =>
  by_cases same : k = l
  · subst same
    simp only [note, update_self]
    exact (o.tally k).mem_covered_note fun x way => ha rfl x y d way rfl
  · simp only [note, update_of_ne (symm same)]

lemma tally_note_comm : ((o.note rules k r).note rules l r').tally = ((o.note rules l r').note rules k r).tally := by
 by_cases same : k = l
 · subst same
   simp only [note, update_self, update_idem, (o.tally k).note_comm (ha rfl)]
 · simp only [note, update_of_ne same, update_of_ne (symm same)]
   exact update_comm same _ _ _

lemma note_comm (hd : ∀ a, r'.draw rules l (r.draw rules k a) = r.draw rules k (r'.draw rules l a)) :
  (o.note rules k r).note rules l r' = (o.note rules l r').note rules k r := by
 refine Outlook.ext ?_ (o.tally_note_comm ha)
 have hp : l = k -> ∀ y x c, r' = .way y c -> r ≠ .way x c := fun same y x c way' way => ha same.symm x y c way way'
 rw [atlas_note (o.note rules k r), atlas_note (o.note rules l r')]
 simp only [o.knows_note ha, o.knows_note hp]
 rw [atlas_note, atlas_note]
 split_ifs
 · rfl
 · rfl
 · rfl
 · exact hd o.atlas

end Outlook

def Watch.tally (w : Watch Suspicion Crossing) : Tally := ⟨w.uncovered, w.suspicious, w.covered⟩

namespace Watch

variable (w : Watch Suspicion Crossing) {x : Site} {c : Crossing}

lemma tally_again (seen : c ∈ w.covered) : (w.taken x).tally = w.tally.note (.way x c) := by
 refine Tally.ext ?_ rfl ?_
 · exact (if_pos (.inl seen)).symm
 · exact (if_pos seen).symm

lemma tally_misread (hu : c ∉ w.covered) (hi : c.legible = false) : (w.cover c).tally = w.tally.note (.way x c) := by
 refine Tally.ext ?_ rfl ?_
 · exact (if_neg (not_or.mpr ⟨hu, by simp [hi]⟩)).symm
 · exact (if_neg hu).symm

lemma tally_charted (hu : c ∉ w.covered) (hl : c.legible = true) : ((w.cover c).taken x).tally = w.tally.note (.way x c) := by
 refine Tally.ext ?_ rfl ?_
 · exact (if_pos (.inr hl)).symm
 · exact (if_neg hu).symm

end Watch

def Session.outlook (s : Session) : Outlook := ⟨s.graph.atlas, fun k => (k.watch s).tally⟩

/-- The calls of interest of a session. -/
def Session.srcs (s : Session) (k : Mirror) : List Site := (k.watch s).srcs

lemma outlook_alter (k : Mirror) (f : Watch Suspicion Crossing -> Watch Suspicion Crossing) (s : Session) :
  (k.alter f s).outlook = ⟨s.graph.atlas, update s.outlook.tally k (f (k.watch s)).tally⟩ := by
 refine Outlook.ext (congrArg Graph.atlas (k.graph_alter f s)) (funext fun l => ?_)
 by_cases own : l = k
 · subst own
   simp only [outlook, watch_alter, update_self]
 · simp only [outlook, watch_alter_of_ne own, update_of_ne own]

lemma tally_graph (s : Session) (g : Graph) : ({ s with graph := g } : Session).outlook.tally = s.outlook.tally :=
 funext fun k => congrArg Watch.tally (k.watch_graph s g)

lemma Sighting.reading_unexplained (read : crossings m.kind.shows m.stack = .ok (hop, caller))
  (hu : ∀ x ∈ (m.kind.watch s).srcs, frameOf x.src ≠ caller) :
  m.reading s.srcs = .suspicion ⟨hop, m.dst, m.stack⟩ := by
 have none : (s.srcs m.kind).find? (fun x => frameOf x.src == caller) = none :=
  find?_eq_none.mpr fun x hm => by simpa using hu x hm
 simp only [reading, read, none]

lemma Sighting.reading_way {caller x}
  (read : crossings m.kind.shows m.stack = .ok (hop, frameOf caller)) (hf : m.kind.site? s caller = some x) :
  m.reading s.srcs = .way x ⟨caller, hop, m.dst⟩ := by
 have hn : (s.srcs m.kind).find? (fun y => frameOf y.src == frameOf caller) = some x := by
  simpa [srcs, site?, Bool.beq_eq_decide_eq, frameOf_inj] using hf
 simp only [reading, read, hn, site?_src hf]

lemma outlook_reflected (hg : ∀ rule ∈ s.needs.calls, (level? rule.2).isSome) (hc : s.graph.Coherent)
  (ho : Reflected m.kind m.dst m.stack s (r, t)) :
  t.outlook = s.outlook.note s.needs.calls m.kind (m.reading s.srcs) := by
 cases ho with
 | unread read =>
  have hn : m.reading s.srcs = .nothing := by simp only [Sighting.reading, read]
  rw [hn]
  exact Outlook.ext rfl (update_eq_self m.kind s.outlook.tally).symm
 | unexplained read hk =>
  rw [Sighting.reading_unexplained read hk, outlook_alter]
  rfl
 | again read hf seen =>
  rw [Sighting.reading_way read hf, outlook_alter, Watch.tally_again _ seen]
  exact Outlook.ext (if_pos seen).symm rfl
 | @misread hop caller e x read hf hu hi =>
  have hfa : (Crossing.mk caller hop m.dst).legible = false := by
   simp [Crossing.legible, hi, Except.isOk, Except.toBool]
  have hd : (Crossing.mk caller hop m.dst).draw s.needs.calls m.kind s.graph.atlas = s.graph.atlas := by
   simp only [Crossing.draw, hi]
  rw [Sighting.reading_way read hf, outlook_alter, Watch.tally_misread _ hu hfa (x := x)]
  exact Outlook.ext ((if_neg hu).trans hd).symm rfl
 | @charted via caller x g read hf hu ends =>
  obtain ⟨h, charted, hs⟩ := m.kind.atlas_chart hg hc caller via m.dst
  obtain ⟨-, rfl⟩ := Prod.mk.inj (charted.symm.trans ends)
  have hl : (Crossing.mk caller (frameOf via) m.dst).legible = true := rfl
  rw [Sighting.reading_way read hf, outlook_alter, tally_graph, watch_graph, Watch.tally_charted _ hu hl]
  exact Outlook.ext (hs.trans (if_neg hu).symm) rfl
 | @uncharted via caller x g e read hf hu ends =>
  obtain ⟨h, charted, -⟩ := m.kind.atlas_chart hg hc caller via m.dst
  rw [charted] at ends
  cases ends

lemma crossings_mem (read : crossings test stack = .ok (f, caller)) : f ∈ stack ∧ caller ∈ stack := by
 induction stack with
 | nil => cases read
 | cons g rest ih =>
  unfold crossings at read
  cases ht : test g with
  | error e =>
   rw [ht] at read
   cases read
  | ok b =>
   rw [ht] at read
   cases b with
   | false => exact (ih read).imp (mem_cons_of_mem g) (mem_cons_of_mem g)
   | true =>
    cases rest with
    | nil => cases read
    | cons next rest =>
     cases read
     simp

/-- A message none of whose names has a blank. -/
structure Sighting.Tight (m : Sighting) : Prop where
 dst : m.dst.Tight
 stack : ∀ frame ∈ m.stack, ∀ name ∈ frame, CallGraph.Tight name

instance (m : Sighting) : Decidable m.Tight :=
 decidable_of_iff (m.dst.Tight ∧ ∀ frame ∈ m.stack, ∀ name ∈ frame, CallGraph.Tight name)
  ⟨fun h => ⟨h.1, h.2⟩, fun h => ⟨h.dst, h.stack⟩⟩

lemma tight_of_frame {m} (free : ∀ name ∈ frameOf m, CallGraph.Tight name) : m.Tight :=
 ⟨free _ (by simp [frameOf]), free _ (by simp [frameOf]), free _ (by simp [frameOf])⟩

lemma Sighting.of_reading_way {srcs x c}
  (read : m.reading srcs = .way x c) : c.dst = m.dst ∧ c.hop ∈ m.stack ∧ frameOf c.src ∈ m.stack ∧
   (srcs m.kind).find? (fun y => frameOf y.src == frameOf c.src) = some x := by
 unfold reading at read
 split at read
 · cases read
 · rename_i hop caller hr
   split at read
   · cases read
   · rename_i y hf
     obtain ⟨rfl, rfl⟩ := Reading.way.inj read
     obtain ⟨hs, ha⟩ := crossings_mem hr
     obtain rfl : frameOf y.src = caller := by simpa using find?_some hf
     exact ⟨rfl, hs, ha, hf⟩

lemma Sighting.Tight.way {srcs x c} (free : m.Tight) (read : m.reading srcs = .way x c) : c.Tight := by
 obtain ⟨dst, hop, src, -⟩ := of_reading_way read
 refine ⟨tight_of_frame (free.stack _ src), fun via hl => ?_, dst ▸ free.dst⟩
 rw [methodOf_eq_ok hl] at hop
 exact tight_of_frame (free.stack _ hop)

/-! ## Any order -/

lemma Sighting.note_comm (rules : Rules) (srcs : Mirror -> List Site) {n : Sighting}
  (hm : m.Tight) (hn : n.Tight) (ha : m.dst = n.dst -> m.kind = n.kind) (o : Outlook) :
  (o.note rules m.kind (m.reading srcs)).note rules n.kind (n.reading srcs) =
   (o.note rules n.kind (n.reading srcs)).note rules m.kind (m.reading srcs) := by
 by_cases same : m.kind = n.kind ∧ m.reading srcs = n.reading srcs
 · rw [same.1, same.2]
 · refine o.note_comm (fun hk x y c way way' => ?_) fun a => ?_
   · -- Two messages about one way are read alike: it is the first site of its method.
     obtain ⟨-, -, -, hf⟩ := of_reading_way way
     obtain ⟨-, -, -, hr⟩ := of_reading_way way'
     rw [hk] at hf
     obtain rfl := Option.some.inj (hf.symm.trans hr)
     exact same ⟨hk, way.trans way'.symm⟩
   · cases way : m.reading srcs with
     | nothing | suspicion => rfl
     | way x c =>
      cases way' : n.reading srcs with
      | nothing | suspicion => rfl
      | way y d =>
       have ht : c.dst = d.dst -> m.kind = n.kind := by
        rw [(of_reading_way way).1, (of_reading_way way').1]
        exact ha
       exact Crossing.draw_comm rules (hm.way way) (hn.way way') ht a

/-- Messages about reflective calls do to the outlook of a session what their readings say. -/
lemma outlook_run (hg : ∀ rule ∈ s.needs.calls, (level? rule.2).isSome)
  (hc : s.graph.Coherent) (ms : List Sighting) : (s.run (ms.map Sighting.event)).outlook =
   ms.foldl (fun o m => o.note s.needs.calls m.kind (m.reading s.srcs)) s.outlook := by
 induction ms generalizing s with
 | nil => rfl
 | cons m ms ih =>
  have ho := reflected_cases m.kind m.dst m.stack s
  have hn : (s.after m.event).needs = s.needs := ho.needs
  have hs : (s.after m.event).srcs = s.srcs := funext ho.srcs
  have rest := ih (hn.symm ▸ hg) (coherent_after m.event hc)
  rw [hn, hs] at rest
  rw [map_cons, run_cons, rest, foldl_cons]
  exact congrArg (ms.foldl _) (outlook_reflected hg hc ho)

/-- Sessions that differ at most in the numbers of nodes and in the order of their books. -/
structure Session.Alike (s t : Session) : Prop where
 graph : ∃ ρ, Graph.Renames ρ s.graph t.graph
 uncovered : ∀ k : Mirror, (k.watch s).uncovered.Perm (k.watch t).uncovered
 covered : ∀ k : Mirror, (k.watch s).covered.Perm (k.watch t).covered
 suspicious : ∀ k : Mirror, (k.watch s).suspicious.Perm (k.watch t).suspicious

lemma Session.Alike.of_outlook (hs : s.graph.Coherent) (ht : t.graph.Coherent) (same : s.outlook = t.outlook) : s.Alike t := by
 have hl : ∀ k : Mirror, (k.watch s).tally = (k.watch t).tally := congrFun (congrArg Outlook.tally same)
 refine ⟨⟨_, hs.renames ht (congrArg Outlook.atlas same)⟩, fun k => ?_, fun k => ?_, fun k => ?_⟩
 · exact Multiset.coe_eq_coe.mp (congrArg Tally.uncovered (hl k))
 · exact Multiset.coe_eq_coe.mp (congrArg Tally.covered (hl k))
 · exact Multiset.coe_eq_coe.mp (congrArg Tally.suspicious (hl k))

/-- Reflective calls can be reported in any order: the call graph is the same up to the numbers of its nodes, and so
    are the books up to the order of their entries. Names must have no blanks, nothing may be both invoked and
    created, and every permission of the rules must have a level. -/
theorem reflected_order_independent (needs : Inspect.Needs) (unpack : Unpacker) (events : List Event)
  (granted : ∀ rule ∈ needs.calls, (level? rule.2).isSome) {ms ns : List Sighting} (same : ms.Perm ns)
  (tight : ∀ m ∈ ms, m.Tight) (apart : ∀ m ∈ ms, ∀ n ∈ ms, m.dst = n.dst -> m.kind = n.kind) :
  (((start needs unpack).run events).run (ms.map Sighting.event)).Alike
   (((start needs unpack).run events).run (ns.map Sighting.event)) := by
 have hc := coherent_run needs unpack events
 have rules : ((start needs unpack).run events).needs = needs := run_needs _ events
 generalize (start needs unpack).run events = s at hc rules
 have hg : ∀ rule ∈ s.needs.calls, (level? rule.2).isSome := rules.symm ▸ granted
 refine .of_outlook ?_ ?_ ?_
 · exact run_keeps (P := fun t => t.graph.Coherent) coherent_after _ hc
 · exact run_keeps (P := fun t => t.graph.Coherent) coherent_after _ hc
 · rw [outlook_run hg hc, outlook_run hg hc]
   exact same.foldl_eq' (fun m hm n hn o =>
    Sighting.note_comm s.needs.calls s.srcs (tight m hm) (tight n hn) (apart m hm n hn) o) s.outlook

/-- The specimen under a rule about what it creates. -/
abbrev Specimen.guarded : Session := (start ⟨[("LB;-<init>-()V", "android.permission.SEND_SMS")], []⟩).run [.began "app" blob]

/-- Two objects that its method creates. -/
def Specimen.sightings : List Sighting :=
 [⟨.making, created, [frameOf byClass, frameOf method]⟩,
  ⟨.making, ⟨"LC;", "<init>", "()V"⟩, [frameOf byConstructor, frameOf method]⟩]

open Monitor.Specimen in
set_option maxRecDepth 100000 in
/-- The nodes are numbered in another order, but nothing else is different. -/
theorem created_in_either_order : (guarded.run (sightings.map Sighting.event)).graph.nodes ≠
   (guarded.run (sightings.reverse.map Sighting.event)).graph.nodes ∧
  (guarded.run (sightings.map Sighting.event)).Alike (guarded.run (sightings.reverse.map Sighting.event)) := by
 constructor
 · decide +kernel
 · exact reflected_order_independent _ _ _ (by decide +kernel) sightings.reverse_perm.symm (by decide) (by decide)

end DexLens.Monitor
