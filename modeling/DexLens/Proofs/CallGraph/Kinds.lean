import DexLens.Proofs.CallGraph.Naming
import DexLens.Proofs.CallGraph.Threads

/-! # What kind of node stands for what

A node gets its kind from the operation that asks for its key first. It has the kind of what it stands for exactly
when that operation was not mistaken: about the receiver of a file, about a constructor or static initializer
invoked by reflection, or about a class and a file that share their name.
-/

namespace DexLens.CallGraph

open Effect Inspect List Graph Entity NodeKind Op

variable {facts : Facts} {needs : Needs}

/-- The kind that the node of an entity should have. -/
def Entity.kind : Entity -> NodeKind
 | method m => .ofSig m.name
 | cls _ => .cls
 | mark text _ _ =>
  if text = "REFL_INVOKE" then .hiddenCall
  else if text = "REFL_NEWINSTANCE" then .hiddenMaking else .load
 | entry text _ => if text = "ACTIVITY" then .activity else if text = "SERVICE" then .service else .receiver
 | permission .. => .permission
 | file _ => .loadedFile

/-- The entities whose nodes get the wrong kind when an operation asks for them first. -/
def Op.Mistakes : Op -> Entity -> Prop
 | .file .., .entry text _ => text = "RECEIVER"
 | .invoke .., .method m => m.name = "<init>" ∨ m.name = "<clinit>"
 | .file .., .file _ | .making .., .file _ | .load .., .cls _ => True
 | _, _ => False

/-- What is created is created by a constructor. -/
def Op.Constructs : Op -> Prop
 | .making _ _ dst => dst.name = "<init>"
 | _ => True

lemma NodeKind.ofSig_eq_method_iff {name : String} :
  .method = ofSig name ↔ ¬ (name = "<init>" ∨ name = "<clinit>") := by
 unfold ofSig
 by_cases hi : name = "<clinit>"
 · simp [hi]
 · by_cases hc : name = "<init>" <;> simp [hi, hc]

lemma ThreadBody.begins_of_among (hm : t ∈ ThreadBody.among cs ms) : Text.startsWith t.body.name "run" := by
 obtain ⟨c, -, hm⟩ := mem_flatMap.mp hm
 obtain ⟨m, body, rfl⟩ := mem_map.mp hm
 exact (Bool.and_eq_true_iff.mp (mem_filter.mp body).2).1

lemma Facts.Makes.kind_eq_iff (hf : Facts.of needs code = .ok facts) {parts kind e}
  (made : facts.Makes parts kind e) : kind = e.kind ↔ ¬ (Op.file code parts).Mistakes e := by
 cases made with
 | called | cls | permission | constructor | start => simp [kind, Mistakes, ofSig]
 | invoke | creation | load | activity | service | receiver => simp [kind, Mistakes]
 | @body t hm =>
  obtain ⟨cs, rs, -, -, ht⟩ := threads_of hf
  have hb := ThreadBody.begins_of_among (ht ▸ hm)
  refine iff_of_true (ofSig_eq_method_iff.mpr ?_) not_false
  rintro (same | same)
  all_goals
   rw [same] at hb
   exact absurd hb (by decide)

lemma Op.Makes.of_file (hn : Facts.of needs code = .ok facts) {parts kind e}
  (made : (Op.file code parts).Makes needs kind e) : facts.Makes parts kind e := by
 cases made with
 | file hf made =>
  obtain rfl := Except.ok.inj (hn.symm.trans hf)
  exact made

/-- A node is of the right kind exactly when the operation that made it is not mistaken. -/
lemma Op.Makes.kind_eq_iff {op : Op} {kind e} (made : op.Makes needs kind e) (hc : op.Constructs)
  (free : e.Tight) (hr : d.Tight) (same : d.key = e.key) : kind = d.kind ↔ ¬ op.Mistakes d := by
 obtain rfl | ⟨name, ⟨rfl, rfl⟩ | ⟨rfl, rfl⟩⟩ := hr.key_inj free same
 · cases made with
   | file hf made => exact made.kind_eq_iff hf
   | invoked => exact ofSig_eq_method_iff
   | @created src hop dst =>
    have hn : dst.name = "<init>" := hc
    simp [kind, Mistakes, ofSig, hn]
   | owner | invocationNeeds | instantiationNeeds | loaded => simp [kind, Mistakes]
 · cases made with
   | file _ made => cases made
   | loaded => simp [kind, Mistakes]
 · cases made with
   | file _ made =>
    cases made
    simp [kind, Mistakes]
   | owner => simp [kind, Mistakes]

lemma Graph.Coherent.eq_of_key {g : Graph} (hc : g.Coherent) (hx : x ∈ g.nodes) (hy : y ∈ g.nodes)
  (same : x.key = y.key) : x = y := inj_on_of_nodup_map hc.uniq hx hy same

/-- Names have no blanks and what is created is created by constructors. Then every node has an operation that asked
    for its key first, and it has the kind of what it stands for exactly when this one was not mistaken. -/
theorem Graph.kinds_told_iff (needs : Needs) {ops : List Op}
  (free : ∀ op ∈ ops, ∀ kind e, op.Makes needs kind e -> e.Tight) (constructs : ∀ op ∈ ops, op.Constructs) :
  ∀ x ∈ (empty.run needs ops).nodes, ∃ done op rest, ops = done ++ op :: rest ∧
   ¬ (empty.run needs done).HasKey x.key ∧ (empty.run needs (done ++ [op])).HasKey x.key ∧
   ∀ e : Entity, e.Tight -> e.key = x.key -> (x.kind = e.kind ↔ ¬ op.Mistakes e) := by
 induction ops using reverseRecOn with
 | nil => exact fun x hm => absurd hm not_mem_nil
 | append_singleton done op ih =>
  intro x hm
  by_cases hb : (empty.run needs done).HasKey x.key
  · -- The node was there before, and it has kept its kind.
    obtain ⟨i, y, at_i, hn⟩ := hb
    obtain ⟨done', op', rest, rfl, ha, hp, told⟩ := ih (fun o h => free o (mem_append_left _ h))
     (fun o h => constructs o (mem_append_left _ h)) y (mem_of_getElem? at_i)
    obtain ⟨z, at_i, same⟩ := (op.changes needs _).retains.nodes i y at_i
    rw [<- Graph.after, <- run_append] at at_i
    obtain rfl : z = x := (coherent_run needs _).eq_of_key (mem_of_getElem? at_i) hm (same.key.trans hn)
    rw [<- same.key] at ha hp told
    rw [<- same.kind] at told
    exact ⟨done', op', rest ++ [op], by simp, ha, hp, told⟩
  · refine ⟨done, op, [], rfl, hb, ?_, fun e hf same => ?_⟩
    · obtain ⟨i, at_i⟩ := getElem?_of_mem hm
      exact ⟨i, x, at_i, rfl⟩
    · rw [run_append] at hm
      obtain ⟨y, old, -, hn⟩ | ⟨d, made, hn⟩ := op.draws needs _ x hm
      · obtain ⟨i, at_i⟩ := getElem?_of_mem old
        exact absurd ⟨i, y, at_i, hn⟩ hb
      · have last : op ∈ done ++ [op] := by simp
        exact made.kind_eq_iff (constructs op last) (free op last _ d made) hf (same.trans hn.symm)

namespace Specimen

/-- The specimen, with its method as that of a receiver. -/
def received : Op := .file code (some ⟨[], [], ["A"]⟩)

theorem kinds_told : (∀ kind e, received.Makes ⟨[], []⟩ kind e -> e.Tight) ∧
  ∀ x ∈ (empty.run ⟨[], []⟩ [received]).nodes, ∃ done op rest, [received] = done ++ op :: rest ∧
   ¬ (empty.run ⟨[], []⟩ done).HasKey x.key ∧ (empty.run ⟨[], []⟩ (done ++ [op])).HasKey x.key ∧
   ∀ e : Entity, e.Tight -> e.key = x.key -> (x.kind = e.kind ↔ ¬ op.Mistakes e) := by
 have free : ∀ kind e, received.Makes ⟨[], []⟩ kind e -> e.Tight := by
  intro kind e made
  cases Op.Makes.of_file facts_of made with
  | activity here hm | service here hm =>
   obtain rfl := Option.some.inj here
   exact absurd hm not_mem_nil
  | receiver here hm =>
   obtain rfl := Option.some.inj here
   obtain rfl := mem_singleton.mp hm
   decide
  | called hm | cls hm | body hm | start hm =>
   obtain rfl := mem_singleton.mp hm
   decide
  | constructor hm hi =>
   obtain rfl := mem_singleton.mp hm
   obtain rfl := mem_singleton.mp hi
   decide
  | invoke hm | creation hm | load hm | permission hm => exact absurd hm not_mem_nil
 exact ⟨free, kinds_told_iff _ (by simpa using free) (by simp [received, Constructs])⟩

/-- The mark of a receiver is of the kind of services. -/
theorem receiver_told_service : ∃ x ∈ (empty.run ⟨[], []⟩ [received]).nodes,
  x.key = (Entity.entry "RECEIVER" receive).key ∧ x.kind = .service := by
 rw [received, <- List.nil_append [_], Graph.run_append, Graph.after, perform_file facts_of]
 decide +kernel

end Specimen

end DexLens.CallGraph
