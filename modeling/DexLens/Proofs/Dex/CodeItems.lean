import DexLens.Proofs.Effect
import DexLens.Dex.Loader
import DexLens.Dex.Members

/-! # Items of code in a loaded file

Looking names up never changes a section of code, so the items of a loaded file are as they were read.
-/

namespace DexLens.Dex

open Array Content Option Res

/-- Whatever a reader reads is as is said. -/
def Reader.Gives (r : Reader α) (P : α -> Prop) : Prop := ∀ p, Res.Gives (r.run p) (P ·.1)

namespace Reader.Gives

variable {α β : Type} {f : α -> Reader β} {r : Reader α}

lemma pure (ha : P a) : Gives (pure a) P := fun _ => .ok ha

lemma bind (hm : Gives m P) (hf : ∀ a, P a -> Gives (f a) Q) : Gives (m >>= f) Q := by
 intro p
 exact (hm p).bind fun x hx => hf x.1 hx x.2

lemma any : Gives r fun _ => True := fun _ _ _ => trivial

lemma next (hf : ∀ a, Gives (f a) Q) : Gives (m >>= f) Q := any.bind fun a _ => hf a

lemma choice [Decidable c] (hm : Gives (if c then m else n) P) (hf : ∀ a, P a -> Gives (f a) Q) :
  Gives (if c then m >>= f else n >>= f) Q := by
 split
 · rw [if_pos ‹_›] at hm
   exact hm.bind hf
 · rw [if_neg ‹_›] at hm
   exact hm.bind hf

lemma many (each : Gives r P) (n : Nat) : Gives (many r n) fun xs => xs.length = n ∧ ∀ x ∈ xs, P x := by
 induction n with
 | zero => exact pure ⟨rfl, by simp⟩
 | succ n ih =>
  exact each.bind fun a ha => ih.bind fun as hr => pure ⟨congrArg (· + 1) hr.1, List.forall_mem_cons.mpr ⟨ha, hr.2⟩⟩

end Reader.Gives

/-- What is known of an item of code that was read. -/
structure CodeItem.Read (odex : Bool) (c : CodeItem) : Prop where
 swept : Code.sweep odex c.units c.bytes 0 = (c.instrs, c.fault)
 tries : c.tries.length = c.triesSize
 handlers : c.triesSize ≠ 0 -> c.handlers.isSome = true

def Content.Read (odex : Bool) (blob : Content) : Prop := ∀ off xs, blob = .code off xs -> ∀ c ∈ xs, c.Read odex

lemma CodeItem.gives_read : (CodeItem.read buf odex).Gives (CodeItem.Read odex) := by
 refine .next fun offset => .next fun _ => .next fun regs => .next fun ins => .next fun outs =>
  .next fun triesSize => .next fun debugOff => .next fun units => .next fun bytes => .choice .any fun padding _ =>
  (Reader.Gives.any.many triesSize).bind fun tries ht =>
  .choice ?_ fun handlers hh => .pure ⟨rfl, ht.1, hh⟩
 split
 · exact .next fun _ => .pure fun _ => rfl
 · exact .pure fun hs => absurd (pos_of_ne_zero hs) ‹_›

lemma Content.gives_read (d : File) (kind : SectionKind) (size : Nat) : (read d kind size).Gives (Read d.odex) := by
 refine .next fun offset => ?_
 cases kind with
 | code =>
  refine .bind (P := fun xs => ∀ c ∈ xs, c.Read d.odex) ((CodeItem.gives_read.many size).bind fun xs hx => .pure ?_)
   fun xs hx => .pure ?_
  · simpa using hx.2
  · rintro _ _ ⟨⟩
    exact hx
 | mapList | debugInfo => exact .pure (by simp [Read])
 | _ => exact .next fun _ => .pure (by simp [Read])

namespace File

/-- Where a file comes from. -/
def origin (d : File) : Bool × Bytes × Buffer × Option OdexParts := (d.odex, d.magic, d.buffer, d.outer)

/-- A file comes from where another does, and the items of code in its sections are as they were read. -/
structure AsRead (was d : File) : Prop where
 origin : d.origin = was.origin
 codes : ∀ m ∈ d.items, m.blob.Read was.odex

lemma addSection_keeps (d : File) (m : MapItem) :
  (d.addSection m).items = d.items.push m ∧ (d.addSection m).origin = d.origin := by
 unfold addSection
 split
 · exact List.foldlRecOn (motive := fun x : File => x.items = d.items.push m ∧ x.origin = d.origin) _ _ ⟨rfl, rfl⟩
    fun x kept _ _ => kept
 · exact ⟨rfl, rfl⟩

namespace AsRead

variable {was d : File} (ha : was.AsRead d) (c : ClassDef) (entry : Nat)

include ha

lemma odex : d.odex = was.odex := congrArg Prod.fst ha.origin

lemma codeItems : ∀ c ∈ d.codeItems, c.Read was.odex := by
 intro c hm
 unfold File.codeItems at hm
 split at hm
 · rename_i off xs hl
   obtain ⟨entry, -, hk⟩ := bind_eq_some_iff.mp hl
   obtain ⟨m, here, hc⟩ := map_eq_some_iff.mp hk
   exact ha.codes m (mem_of_getElem? here) off xs hc c hm
 · simp at hm

lemma addSection (new : m.blob.Read was.odex) : was.AsRead (d.addSection m) := by
 obtain ⟨hi, same⟩ := d.addSection_keeps m
 refine ⟨same.trans ha.origin, fun m' hm => ?_⟩
 rw [hi] at hm
 rcases mem_push.mp hm with old | rfl
 · exact ha.codes m' old
 · exact new

lemma modifyContent (hf : ∀ blob, blob.Read was.odex -> (f blob).Read was.odex) :
  was.AsRead (d.modifyContent entry f) := by
 refine ⟨ha.origin, fun m hm => ?_⟩
 obtain ⟨i, here⟩ := mem_iff_getElem?.mp hm
 unfold File.modifyContent at here
 simp only [getElem?_modify] at here
 split at here
 · obtain ⟨m', was, rfl⟩ := map_eq_some_iff.mp here
   exact hf _ (ha.codes m' (mem_of_getElem? was))
 · exact ha.codes m (mem_of_getElem? here)

lemma setBlob (hc : blob.Read was.odex := by simp [Read]) : was.AsRead (d.setBlob entry blob) :=
 ha.modifyContent entry fun _ _ => hc

lemma modifyData (i : Nat) (f : ClassData -> ClassData) : was.AsRead (d.modifyData i f) := by
 unfold File.modifyData adjust
 split
 · refine ha.modifyContent _ fun blob hc => ?_
   split
   · simp [Read]
   · exact hc
 · exact ha

lemma loadMap (n : Nat) : (loadMap n d).Gives (AsRead was) := by
 induction n generalizing d with
 | zero => exact .pure ha
 | succ n ih =>
  refine .next fun place => .next fun code => .next fun unused => .next fun size => .next fun offset => .next fun _ => ?_
  split
  · exact fun _ => nofun
  · exact (gives_read d _ size).bind fun blob hc => .next fun _ => ih (ha.addSection (ha.odex ▸ hc))

lemma typeListAt (off : Nat) : (d.typeListAt off).Gives fun x => was.AsRead x.2 := by
 unfold File.typeListAt
 split
 · exact .ok ha
 · split
   · exact .ok ha
   · refine .next fun lists => ?_
     split
     · exact .next fun _ => .ok ⟨ha.origin, ha.codes⟩
     · exact .ok ha

lemma loadProtos (ps : List ProtoId) : (d.loadProtos ps).Gives fun x => was.AsRead x.2 := by
 induction ps generalizing d with
 | nil => exact .ok ha
 | cons p ps ih =>
  have first : (d.loadProto p).Gives fun x => was.AsRead x.2 :=
   .next fun _ => .next fun _ => (ha.typeListAt _).bind fun _ hl => .ok hl
  exact first.bind fun _ hf => (ih hf).bind fun _ hr => .ok hr

lemma loadInterfaces : (d.loadInterfaces c).Gives fun x => was.AsRead x.2 := by
 unfold File.loadInterfaces
 split
 · exact ha.typeListAt _
 · exact .ok ha

lemma loadMembers : (d.loadMembers c).Gives fun x => was.AsRead x.2 := by
 unfold File.loadMembers
 split
 · refine .next fun xs => ?_
   split
   · exact nofun
   · exact .next fun _ => .ok (ha.modifyData _ _)
 · exact .ok ha

lemma loadValues (data : Option Nat) : (d.loadValues c data).Gives fun x => was.AsRead x.2 := by
 unfold File.loadValues
 split
 · refine .next fun arrays => ?_
   cases data with
   | none => exact .ok ha
   | some i => exact .next fun _ => .next fun _ => .ok (ha.modifyData _ _)
 · exact .ok ha

lemma loadClassDefs (cs : List ClassDef) : (d.loadClassDefs cs).Gives fun x => was.AsRead x.2 := by
 induction cs generalizing d with
 | nil => exact .ok ha
 | cons c cs ih =>
  have first : (d.loadClassDef c).Gives fun x => was.AsRead x.2 :=
   .next fun _ => .next fun _ => (ha.loadInterfaces c).bind fun _ hi => (hi.loadMembers c).bind fun _ hm =>
    (hm.loadValues c _).bind fun _ hv => .ok hv
  exact first.bind fun _ hf => (ih hf).bind fun _ hr => .ok hr

lemma loadEntry : (d.loadEntry entry).Gives (AsRead was) := by
 unfold File.loadEntry
 split
 · exact .next fun _ => .ok (ha.setBlob _)
 · exact (ha.loadProtos _).bind fun _ hl => .ok (hl.setBlob _)
 · exact .next fun _ => .ok (ha.setBlob _)
 · exact .next fun _ => .ok (ha.setBlob _)
 · exact (ha.loadClassDefs _).bind fun _ hl => .ok (hl.setBlob _)
 · exact .next fun _ => .ok (ha.setBlob _)
 · exact .ok (ha.setBlob _)
 · exact .ok ha

lemma loadPlain : d.loadPlain.Gives (AsRead was) := by
 refine .next fun lead => ?_
 simp only
 split
 · exact .ok ⟨ha.origin, ha.codes⟩
 · refine .bind ?_ fun _ hr => .foldlM (fun _ _ ha => ha.loadEntry _) hr
   refine Reader.Gives.next (fun _ => .next fun size => ?_) 0
   exact loadMap (d := { d with lead := lead.1, mapOff := lead.1.mapOff, mapSize := size }) ⟨ha.origin, ha.codes⟩ size

end AsRead

lemma asRead_loadPlain {was d : File} (hl : was.loadPlain = .ok d) (none : was.items = #[]) : was.AsRead d :=
 .loadPlain ⟨rfl, by simp [none]⟩ d hl

lemma read_of_codeOf {odex recode : Bool} (hl : load odex recode blob = .ok d) (hk : d.codeOf? r = some c) :
  c.Read odex := by
 obtain ⟨i, -, at_i⟩ := Option.bind_eq_some_iff.mp hk
 suffices (load odex recode blob).Gives fun d => ∀ c ∈ d.codeItems, c.Read odex from
  this d hl c (Array.mem_of_getElem? at_i)
 unfold load
 simp only
 split
 · exact .next fun x d hl => (asRead_loadPlain hl rfl).codeItems
 · exact fun d hl => (asRead_loadPlain hl rfl).codeItems

end File

end DexLens.Dex
