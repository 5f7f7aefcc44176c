import DexLens.Proofs.CallGraph.Atlas
import DexLens.Proofs.CallGraph.Marks

/-! # What a node stands for

When names have no blanks, the number of blanks gives the shape of a key, and its words give its names. A class and
a file have keys of the same shape, so a file must not have the name of a class.
-/

namespace DexLens.CallGraph

open Effect Graph Inspect Entity List

namespace Entity

/-- None of the names has a blank. What a permission is called stands last in its key and may have blanks. -/
def Tight : Entity -> Prop
 | method m => m.Tight
 | cls name | file name => CallGraph.Tight name
 | mark text src dst => CallGraph.Tight text ∧ src.Tight ∧ dst.Tight
 | entry text m => CallGraph.Tight text ∧ m.Tight
 | permission src dst _ => src.Tight ∧ dst.Tight

instance : DecidablePred Tight
 | method m => inferInstanceAs (Decidable m.Tight)
 | cls name | file name => inferInstanceAs (Decidable (CallGraph.Tight name))
 | mark .. | entry .. | permission .. => inferInstanceAs (Decidable (_ ∧ _))

/-- The shapes of keys, by the number of blanks. A permission may add some. -/
def shape : Entity -> Nat
 | cls _ | file _ => 0
 | method _ => 2
 | entry .. => 3
 | mark .. => 6
 | permission .. => 7

lemma Tight.blanks_key {e : Entity} (free : e.Tight) : min 7 (blanks e.key) = e.shape := by
 have one : blanks " " = 1 := rfl
 cases e with
 | method m => simp only [key, shape, Sig.Tight.blanks_key free]; rfl
 | cls name | file name => simp only [key, shape, CallGraph.Tight.blanks_eq free]; rfl
 | mark text src dst =>
  simp only [key, shape, blanks_markKey free.2.1 free.2.2, free.1.blanks_eq]
  rfl
 | entry text m =>
  simp only [key, shape, blanks_append, free.2.blanks_key, free.1.blanks_eq, one]
  rfl
 | permission src dst perm =>
  simp only [key, shape, blanks_append, blanks_markKey free.1 free.2, one]
  omega

lemma markKey_append_inj (ha : a.Tight) (hb : b.Tight) (ha' : a'.Tight)
  (hb' : b'.Tight) (same : Build.markKey a b s = Build.markKey a' b' t) :
  a = a' ∧ b = b' ∧ s = t := by
 simp only [Build.markKey, String.append_assoc] at same
 obtain ⟨hf, same⟩ := ha.key_append_inj ha' same
 exact ⟨hf, hb.key_append_inj hb' same⟩

/-- Entities of one shape with the same key are the same, unless one is a class and the other is a file. -/
lemma Tight.key_inj (hd : d.Tight) (he : e.Tight) (same : d.key = e.key) :
  d = e ∨ ∃ name, (d = cls name ∧ e = file name) ∨ (d = file name ∧ e = cls name) := by
 have hs : d.shape = e.shape := by rw [<- hd.blanks_key, <- he.blanks_key, same]
 cases d <;> cases e <;> try cases hs
 case method m n => exact .inl (congrArg method (Sig.Tight.key_inj hd he same))
 case cls.cls | file.file => exact .inl (congrArg _ same)
 case cls.file name _ => exact .inr ⟨name, .inl ⟨rfl, congrArg file same.symm⟩⟩
 case file.cls name _ => exact .inr ⟨name, .inr ⟨rfl, congrArg cls same.symm⟩⟩
 case mark.mark =>
   obtain ⟨rfl, rfl, rfl⟩ := markKey_append_inj hd.2.1 hd.2.2 he.2.1 he.2.2 same
   exact .inl rfl
 case entry.entry =>
   simp only [key, String.append_assoc] at same
   obtain ⟨rfl, rfl⟩ := hd.2.key_append_inj he.2 same
   exact .inl rfl
 case permission.permission =>
   simp only [key, Build.markKey, String.append_assoc] at same
   obtain ⟨rfl, rest⟩ := hd.1.key_append_inj he.1 same
   obtain ⟨rfl, last⟩ := hd.2.key_append_inj he.2 rest
   obtain rfl := (String.append_right_inj _).mp ((String.append_right_inj _).mp last)
   exact .inl rfl

end Entity

/-- The nodes that are made by an operation, with their kinds. -/
inductive Op.Makes (needs : Needs) : Op -> NodeKind -> Entity -> Prop where
 | file {code parts facts kind e} : Facts.of needs code = .ok facts -> facts.Makes parts kind e ->
   Makes needs (.file code parts) kind e
 | invoked {src hop dst} : Makes needs (.invoke src hop dst) .method (.method dst)
 | created {src hop dst} : Makes needs (.making src hop dst) .constructor (.method dst)
 | owner {src hop dst} : Makes needs (.making src hop dst) .cls (.cls dst.cls)
 | invocationNeeds {src hop dst perm} : needs.calls.lookup dst.rule = some perm ->
   Makes needs (.invoke src hop dst) .permission (.permission hop dst perm)
 | instantiationNeeds {src hop dst perm} : needs.calls.lookup dst.rule = some perm ->
   Makes needs (.making src hop dst) .permission (.permission hop dst perm)
 | loaded {src hop filename} : Makes needs (.load src hop filename) .loadedFile (.file filename)

lemma Op.draws (needs : Needs) (op : Op) :
  Keeps (Draws fun kind key => ∃ e, op.Makes needs kind e ∧ e.key = key) (op.perform needs) := by
 refine fun g => (?_ : g.Moves True _ _).draws
 cases op with
 | file code parts =>
  cases hc : Facts.of needs code with
  | ok facts =>
   simp only [perform, hc]
   exact Build.moves_addFile (fun _ _ => .inl trivial) (fun _ e made => ⟨e, .file hc made, rfl⟩) g
  | error fault =>
   simp only [perform, hc]
   exact refl g
 | invoke =>
  exact Build.moves_addReflected (.inl trivial) ⟨_, .invoked, rfl⟩ (fun none => by cases none) (fun _ hn => ⟨_, .invocationNeeds hn, rfl⟩) _ _ g
 | making =>
  exact Build.moves_addReflected (.inl trivial) ⟨_, .created, rfl⟩ (fun _ => ⟨_, .owner, rfl⟩)
   (fun _ hn => ⟨_, .instantiationNeeds hn, rfl⟩) _ _ g
 | load => exact Build.moves_addLoad ⟨_, .loaded, rfl⟩ _ _ g

namespace Graph

/-- Every node was made for an entity by one of the operations. -/
lemma made_of_run (needs : Needs) (ops : List Op) :
  ∀ x ∈ (empty.run needs ops).nodes, ∃ op ∈ ops, ∃ e, op.Makes needs x.kind e ∧ e.key = x.key := by
 induction ops using reverseRecOn with
 | nil => exact fun x hm => absurd hm not_mem_nil
 | append_singleton done op ih =>
  intro x hm
  rw [run_append] at hm
  obtain ⟨y, old, kind, key⟩ | made := op.draws needs _ x hm
  · obtain ⟨op, hb, e, made, hn⟩ := ih y old
    exact ⟨op, mem_append_left _ hb, e, kind ▸ made, hn.trans key⟩
  · exact ⟨op, by simp, made⟩

/-- Among entities whose names have no blanks, and none of whose files is called like a class, no two have the same
    key. So each node is that of one entity. -/
theorem node_of_one_entity {S : Set Entity} (free : ∀ e ∈ S, e.Tight)
  (apart : ∀ name, .file name ∈ S -> .cls name ∉ S) (needs : Needs) {ops : List Op}
  (within : ∀ op ∈ ops, ∀ kind e, op.Makes needs kind e -> e ∈ S) : S.InjOn key ∧ ∀ x ∈ (empty.run needs ops).nodes,
   ∃! e, e ∈ S ∧ e.key = x.key ∧ ∃ op ∈ ops, op.Makes needs x.kind e := by
 have inj : S.InjOn key := by
  intro d hd e he same
  obtain rfl | ⟨name, ⟨rfl, rfl⟩ | ⟨rfl, rfl⟩⟩ := (free d hd).key_inj (free e he) same
  · rfl
  · exact absurd hd (apart name he)
  · exact absurd he (apart name hd)
 refine ⟨inj, fun x hm => ?_⟩
 obtain ⟨op, hb, e, made, hn⟩ := made_of_run needs ops x hm
 have hk : e ∈ S := within op hb _ e made
 exact ⟨e, ⟨hk, hn, op, hb, made⟩, fun d hd => inj hd.1 hk (hd.2.1.trans hn.symm)⟩

/-- A method that is both invoked and created, its class, what needs a permission twice, and a file. -/
theorem five_entities_told : let a : Sig:= ⟨"LA;", "run", "()V"⟩
  let b : Sig := ⟨"LB;", "<init>", "(I)V"⟩
  let S := [method b, .cls b.cls, .permission a b "p q", .permission b b "p q", .file "LB"]
  let ops := [Op.invoke a a b, .making a b b, .load a b "LB"]
  {e | e ∈ S}.InjOn key ∧ ∀ x ∈ (empty.run ⟨[(b.rule, "p q")], []⟩ ops).nodes,
   ∃! e, e ∈ S ∧ e.key = x.key ∧ ∃ op ∈ ops, op.Makes ⟨[(b.rule, "p q")], []⟩ x.kind e := by
 intro a b S ops
 have free : ∀ e ∈ S, e.Tight := by decide
 refine node_of_one_entity (S := {e | e ∈ S}) free (by simp [S, b]) _ fun op hm kind e made => ?_
 simp only [ops, mem_cons, not_mem_nil, or_false] at hm
 rcases hm with rfl | rfl | rfl <;> cases made <;> simp_all [S]

end Graph

end DexLens.CallGraph
