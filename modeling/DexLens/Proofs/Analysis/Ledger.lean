import DexLens.Proofs.Lookup
import DexLens.Analysis.Usage

/-! # The tables of usage

Tables are amended by one record after the other; what they hold is what was recorded, each record once.
-/

namespace DexLens.Analysis

open Dex Lookup List Option Places

/-! ## Tables of places -/

namespace Places

lemma push_eq (p : Places) (method : Nat) (a : Access) (off : Nat) :
  p.push method a off = amend (·.1) p method (fun q => (q.1, q.2 ++ [(a, off)])) (method, [(a, off)]) := rfl

lemma flat_push {p : Places} (hn : (p.map (·.1)).Nodup) (method : Nat) (a : Access) (off : Nat) :
  (p.push method a off).flat.Perm (p.flat ++ [(a, off, method)]) := by
 refine flatMap_amend hn (fun q _ own => ?_) rfl
 obtain ⟨m, places⟩ := q
 obtain rfl : m = method := own
 simp

lemma mem_keys_push (p : Places) (method : Nat) (a : Access) (off m : Nat) :
  m ∈ (p.push method a off).map (·.1) ↔ m ∈ p.map (·.1) ∨ m = method := by
 simp only [List.mem_map, push_eq]
 exact exists_mem_amend (fun q _ own => by simp [own, eq_comm]) (by simp [eq_comm])

lemma of_method {p : Places} (hn : (p.map (·.1)).Nodup) (method : Nat) :
  (p.flat.filterMap fun x => if x.2.2 = method then some (x.1, x.2.1) else none) = (p.lookup method).getD [] := by
 have hp := filterMap_flatMap hn method id (fun m x => (x.1, x.2, m))
  (fun x => if x.2.2 = method then some (x.1, x.2.1) else none) fun _ _ => rfl
 rwa [Option.map_id] at hp

end Places

namespace Usage

lemma upsert_eq [DecidableEq α] (xs : List (α × β)) (key : α) (old : β -> β) (new : β) :
  upsert xs key old new = amend (·.1) xs key (fun p => (p.1, old p.2)) (key, new) := rfl

lemma lookup_upsert [DecidableEq κ] (t : List (κ × β)) (k : κ) (old : β -> β) (new : β) (l : κ) :
  (upsert t k old new).lookup l = if l = k then some (((t.lookup k).map old).getD new) else t.lookup l := by
 rw [<- write t k old new l, upsert]
 congr 2
 refine map_congr_left fun p _ => ?_
 split
 · next own => rw [beq_iff_eq.mp own]
 · rfl

lemma mem_noteKey : (∃ e ∈ noteKey t method key, e.1 = m ∧ k ∈ e.2) ↔ (∃ e ∈ t, e.1 = m ∧ k ∈ e.2) ∨ m = method ∧ k = key := by
 refine exists_mem_amend (fun e _ own => ?_) (by simp [eq_comm])
 by_cases hk : key ∈ e.2
 · simp only [contains_iff_mem, hk, if_true]
   constructor
   · exact .inl
   · rintro (old | ⟨rfl, rfl⟩)
     · exact old
     · exact ⟨own, hk⟩
 · simp [hk, own, and_or_left, eq_comm]

/-- A table of things with their places, and for each method the keys of the things that it uses. -/
structure Ledger (key : β -> String) (places : β -> Places) (xs : List β) (noted : List (Nat × List String)) :
  Prop where
 keys : (xs.map key).Nodup
 methods : ∀ x ∈ xs, ((places x).map (·.1)).Nodup
 filled : ∀ x ∈ xs, ∀ e ∈ places x, e.2 ≠ []
 numbers : (noted.map (·.1)).Nodup
 once : ∀ e ∈ noted, e.2.Nodup
 agrees : ∀ m k, (∃ e ∈ noted, e.1 = m ∧ k ∈ e.2) ↔ ∃ x ∈ xs, key x = k ∧ m ∈ (places x).map (·.1)

namespace Ledger

variable {β : Type} {key : β -> String} {places : β -> Places} {xs : List β} {noted : List (Nat × List String)}

lemma empty : Ledger key places [] [] := ⟨.nil, nofun, nofun, .nil, nofun, by simp⟩

variable (hl : Ledger key places xs noted)

include hl

lemma add (hf : key x ∉ xs.map key) (hu : places x = []) : Ledger key places (xs ++ [x]) noted := by
 refine { hl with keys := ?_, methods := ?_, filled := ?_, agrees := fun m k => (hl.agrees m k).trans ?_ }
 · rw [map_append, map_singleton, <- concat_eq_append]
   exact hl.keys.concat hf
 · exact forall_mem_append.mpr ⟨hl.methods, by simp [hu]⟩
 · exact forall_mem_append.mpr ⟨hl.filled, by simp [hu]⟩
 · simp [or_and_right, exists_or, hu]

lemma use (same : ∀ x, key (f x) = key x) (hs : ∀ x, places (f x) = (places x).push method a off) (own : key new = k)
  (hp : places new = [(method, [(a, off)])]) : Ledger key places (amend key xs k f new) (noteKey noted method k) where
 keys := nodup_amend hl.keys (fun x => (same x).trans) own
 methods := by
  refine forall_mem_amend hl.methods (fun x hi _ => ?_) (by simp [hp])
  rw [hs, push_eq]
  exact nodup_amend (hl.methods x hi) (fun _ => id) rfl
 filled := by
  refine forall_mem_amend hl.filled (fun x hi _ => ?_) (by simp [hp])
  rw [hs, push_eq]
  exact forall_mem_amend (hl.filled x hi) (by simp) (by simp)
 numbers := nodup_amend hl.numbers (fun _ => id) rfl
 once := by
  refine forall_mem_amend hl.once (fun e hi _ => ?_) (nodup_singleton k)
  by_cases hk : k ∈ e.2
  · simpa [hk] using hl.once e hi
  · simpa [hk] using (hl.once e hi).concat hk
 agrees m k' := by
  rw [mem_noteKey, hl.agrees]
  refine (exists_mem_amend (fun x _ here => ?_) ?_).symm
  · rw [same, hs, mem_keys_push, here, and_or_left]
    simp [eq_comm, and_comm]
  · simp [own, hp, eq_comm, and_comm]

lemma mem_noted : k ∈ (noted.lookup m).getD [] ↔ ∃ x ∈ xs, key x = k ∧ m ∈ (places x).map (·.1) := by
 rw [<- hl.agrees]
 cases hk : noted.lookup m with
 | none =>
  rw [lookup_eq_none_iff] at hk
  simp only [getD_none, not_mem_nil, false_iff, not_exists, not_and]
  rintro e hi rfl
  simp at hk
  exact absurd rfl (hk _ _ hi)
 | some ks =>
  have hm := (eq_some_iff_mem hl.numbers).mp hk
  constructor
  · exact fun hi => ⟨_, hm, rfl, hi⟩
  · rintro ⟨⟨_, ls⟩, ht, rfl, hi⟩
    rw [(eq_some_iff_mem hl.numbers).mpr ht] at hk
    cases hk
    exact hi

lemma usedBy_perm (method : Nat) : (usedBy key places xs noted method).Perm
   (xs.filterMap fun x => ((places x).lookup method).map (x, ·)) := by
 have hn : ∀ {k x}, xs.find? (key · == k) = some x ↔ x ∈ xs ∧ key x = k := find?_eq_some_iff_mem hl.keys
 have hp : ((noted.lookup method).getD []).Nodup := by
  cases hk : noted.lookup method with
  | none => exact .nil
  | some ks => exact hl.once _ ((eq_some_iff_mem hl.numbers).mp hk)
 refine (perm_ext_iff_of_nodup (hp.filterMap ?_) ((Nodup.of_map key hl.keys).filterMap ?_)).mpr ?_
 · intro k l y here ht
   obtain ⟨x, hf, rfl⟩ := map_eq_some_iff.mp here
   obtain ⟨x', hd, same⟩ := map_eq_some_iff.mp ht
   cases same
   exact (hn.mp hf).2.symm.trans (hn.mp hd).2
 · intro x x' y here ht
   obtain ⟨_, -, rfl⟩ := map_eq_some_iff.mp here
   obtain ⟨_, -, same⟩ := map_eq_some_iff.mp ht
   exact (congrArg Prod.fst same).symm
 · rintro ⟨x, ps⟩
   simp only [mem_filterMap, map_eq_some_iff, Prod.mk.injEq]
   constructor
   · rintro ⟨k, hi, _, hf, rfl, rfl⟩
     obtain ⟨hm, own⟩ := hn.mp hf
     obtain ⟨x', hb, own', uses⟩ := hl.mem_noted.mp hi
     obtain rfl := inj_on_of_nodup_map hl.keys hb hm (own'.trans own.symm)
     obtain ⟨⟨_, qs⟩, ht, rfl⟩ := mem_map.mp uses
     have hk := (eq_some_iff_mem (hl.methods _ hm)).mpr ht
     exact ⟨_, hm, qs, hk, rfl, by rw [of_method (hl.methods _ hm), hk]; rfl⟩
   · rintro ⟨_, hm, qs, hk, rfl, rfl⟩
     have ht := (eq_some_iff_mem (hl.methods _ hm)).mp hk
     exact ⟨_, hl.mem_noted.mpr ⟨_, hm, rfl, mem_map_of_mem ht⟩, _, hn.mpr ⟨hm, rfl⟩, rfl,
      (of_method (hl.methods _ hm) method).trans (by rw [hk]; rfl)⟩

end Ledger

end Usage

/-! ## Records -/

/-- What an instruction does that tables keep. Fields are told in one way or another. -/
inductive Deed (φ : Type) where
 | call (cls : String) (dst : Option Nat)
 | create (cls : String)
 | access (field : φ) (a : Access)
 | text (s : String) (a : Access)
 deriving DecidableEq

/-- A deed with the number of the method and the offset of the instruction. -/
structure Record (φ : Type) where
 (method offset : Nat)
 deed : Deed φ
 deriving DecidableEq

def Deed.map (g : φ -> ψ) : Deed φ -> Deed ψ
 | .call cls dst => .call cls dst
 | .create cls => .create cls
 | .access field a => .access (g field) a
 | .text s a => .text s a

def Record.map (g : φ -> ψ) (x : Record φ) : Record ψ := ⟨x.method, x.offset, x.deed.map g⟩

/-- Class, type and name of a field. -/
abbrev FieldSig := String × String × String

/-- The key under which the table of fields keeps a field. -/
def FieldSig.key (f : FieldSig) : String := f.1 ++ f.2.1 ++ f.2.2

def FieldUse.names (f : FieldUse) : FieldSig := (f.cls, f.type, f.name)

namespace Usage

section

variable {ρ β φ : Type} (u : Usage)

def recordsOf (places : β -> Places) (deed : β -> Access -> Deed φ) (x : β) : List (Record φ) :=
 (places x).flat.map fun y => ⟨y.2.2, y.2.1, deed x y.1⟩

def packageItems (call create : String -> Path -> ρ) (k : Package) : List ρ :=
 k.calls.map (call k.name) ++ k.creations.map (create k.name)

def packageRecords : Package -> List (Record φ) :=
 packageItems (fun name p => ⟨p.src, p.offset, .call name p.dst⟩) fun name p => ⟨p.src, p.offset, .create name⟩

/-- All that the tables keep, fields told in one way. -/
def records (tell : FieldUse -> φ) : List (Record φ) :=
 u.fields.flatMap (recordsOf FieldUse.places fun f => .access (tell f)) ++
  (u.strings.flatMap (recordsOf StringUse.places (.text ·.text)) ++ u.pkgs.flatMap packageRecords)

/-- The calls and creations of the table of classes. -/
def ways : List (String × Path) := u.pkgs.flatMap (packageItems Prod.mk Prod.mk)

/-- The calls and creations of the table of methods. -/
def owned : List (MRef × String × Path) := u.byMethod.flatMap fun e => e.2.flatMap fun c => c.2.map (e.1, c.1, ·)

/-- The calls and creations that are kept under a method. -/
def waysOf (r : MRef) : List (String × Path) := (u.packagesOf r).flatMap fun c => c.2.map (c.1, ·)

lemma perm_snoc (front back : List ρ) {xs ys all e} (more : ys.Perm (xs ++ [e])) (hk : (front ++ (xs ++ back)).Perm all) :
  (front ++ (ys ++ back)).Perm (all ++ [e]) := by
 refine ((more.append_right back).append_left front).trans (.trans ?_ (hk.append_right [e]))
 simp only [append_assoc]
 exact (perm_append_comm.append_left xs).append_left front

lemma Ledger.records_use
  (hl : Ledger key places xs noted)
  (same : ∀ x, key (f x) = key x) (hs : ∀ x, places (f x) = (places x).push method a off) (own : key new = k)
  (hp : places new = [(method, [(a, off)])]) (deed : String -> Access -> Deed φ) :
  ((amend key xs k f new).flatMap (recordsOf places fun x => deed (key x))).Perm
   (xs.flatMap (recordsOf places fun x => deed (key x)) ++ [⟨method, off, deed k a⟩]) := by
 refine flatMap_amend hl.keys (fun x hi here => ?_) ?_
 · have flat := flat_push (hl.methods x hi) method a off
   simpa [recordsOf, hs, same, here] using flat.map fun y => (⟨y.2.2, y.2.1, deed k y.1⟩ : Record φ)
 · simp [recordsOf, hp, own, flat]

end

def extend (p : Path) (k : Package) : Package :=
 if p.dst.isSome then { k with calls := k.calls ++ [p] } else { k with creations := k.creations ++ [p] }

lemma name_extend (p : Path) (k : Package) : (extend p k).name = k.name := by
 unfold extend
 split <;> rfl

lemma flatMap_pkgs (hn : (ks.map (·.name)).Nodup) (call create : String -> Path -> ρ) (cls : String) (p : Path) :
  ((amend (·.name) ks cls (extend p) (extend p ⟨cls, [], []⟩)).flatMap (packageItems call create)).Perm
   (ks.flatMap (packageItems call create) ++ [if p.dst.isSome then call cls p else create cls p]) := by
 refine flatMap_amend hn (fun k _ own => ?_) ?_
 · unfold packageItems extend
   split
   · simpa [own] using (perm_append_singleton (call cls p) (k.creations.map (create cls))).symm.append_left _
   · simp [own]
 · unfold packageItems extend
   split <;> rfl

/-- The tables after some records. Methods have numbers, and their calls and creations are told by these. -/
structure Kept (number : MRef -> Nat) (log : List (Record FieldSig)) (u : Usage) : Prop where
 recorded : (u.records FieldUse.key).Perm (log.map (Record.map FieldSig.key))
 fields : Ledger FieldUse.key FieldUse.places u.fields u.fieldKeys
 strings : Ledger StringUse.text StringUse.places u.strings u.stringKeys
 pkgs : (u.pkgs.map (·.name)).Nodup
 methods : (u.byMethod.map (·.1)).Nodup
 classes : ∀ e ∈ u.byMethod, (e.2.map (·.1)).Nodup
 owned : u.ways.Perm (u.owned.map (·.2))
 srcs : ∀ e ∈ u.owned, e.2.2.src = number e.1

namespace Kept

variable {number : MRef -> Nat} {log : List (Record FieldSig)} {u : Usage}

lemma empty : Kept number [] default := ⟨.nil, .empty, .empty, .nil, .nil, nofun, .nil, nofun⟩

lemma addField (kept : u.Kept number log) (cls type name : String) : (u.addField cls type name).Kept number log := by
 unfold Usage.addField
 simp only
 split
 · exact kept
 · rename_i hu
   have same : ({ u with fields := u.fields ++ [⟨cls, type, name, []⟩] } : Usage).records FieldUse.key =
     u.records FieldUse.key := by
    simp [records, recordsOf, flat]
   exact { kept with
    recorded := same ▸ kept.recorded
    fields := kept.fields.add (by simpa using hu) rfl }

lemma useField (kept : u.Kept number log) (f : FieldSig) (method : Nat) (a : Access) (off : Nat) :
  (u.useField f.1 f.2.1 f.2.2 method a off).Kept number (log ++ [⟨method, off, .access f a⟩]) := by
 have ha := kept.addField f.1 f.2.1 f.2.2
 have hk : f.key ∈ (u.addField f.1 f.2.1 f.2.2).fields.map FieldUse.key := by
  unfold Usage.addField
  simp only
  split
  · rename_i hl
    simpa [FieldUse.key, FieldSig.key] using hl
  · simp [FieldUse.key, FieldSig.key]
 have step : u.useField f.1 f.2.1 f.2.2 method a off =
   { u.addField f.1 f.2.1 f.2.2 with
     fields := amend FieldUse.key (u.addField f.1 f.2.1 f.2.2).fields f.key
      (fun g => { g with places := g.places.push method a off }) ⟨f.1, f.2.1, f.2.2, [(method, [(a, off)])]⟩
     fieldKeys := noteKey (u.addField f.1 f.2.1 f.2.2).fieldKeys method f.key } := by
  simp only [Usage.useField, amend_of_mem hk, beq_iff_eq]
  rfl
 rw [step]
 generalize u.addField f.1 f.2.1 f.2.2 = v at ha
 refine { ha with recorded := ?_, fields := ha.fields.use (fun _ => rfl) (fun _ => rfl) rfl rfl }
 rw [map_append]
 exact perm_snoc [] _ (ha.fields.records_use (fun _ => by rfl) (fun _ => by rfl) (by rfl) (by rfl) .access) ha.recorded

lemma useString (kept : u.Kept number log) (text : String) (method off : Nat) :
  (u.useString text method off).Kept number (log ++ [⟨method, off, .text text .read⟩]) := by
 refine { kept with recorded := ?_, strings := kept.strings.use (fun _ => rfl) (fun _ => rfl) rfl rfl }
 rw [map_append]
 exact perm_snoc _ _ (kept.strings.records_use (fun _ => by rfl) (fun _ => by rfl) (by rfl) (by rfl) .text) kept.recorded

lemma usePath (kept : u.Kept number log) (cls : String) (p : Path) (src : p.src = number r) :
  (u.usePath cls r p).Kept number
   (log ++ [⟨p.src, p.offset, if p.dst.isSome then .call cls p.dst else .create cls⟩]) := by
 have pkgs : (u.usePath cls r p).pkgs = amend (·.name) u.pkgs cls (extend p) (extend p ⟨cls, [], []⟩) := rfl
 have byMethod : (u.usePath cls r p).byMethod = amend (·.1) u.byMethod r
   (fun e => (e.1, amend (·.1) e.2 cls (fun c => (c.1, c.2 ++ [p])) (cls, [p]))) (r, [(cls, [p])]) := rfl
 have owned : (u.usePath cls r p).owned.Perm (u.owned ++ [(r, cls, p)]) := by
  rw [Usage.owned, byMethod]
  refine flatMap_amend kept.methods (fun e inside own => ?_) rfl
  refine (flatMap_amend (kept.classes e inside) (fun c _ here => ?_) rfl).trans (by rw [own])
  simp [here, own]
 refine { kept with recorded := ?_, pkgs := ?_, methods := ?_, classes := ?_, owned := ?_, srcs := ?_ }
 · have told : Record.map FieldSig.key ⟨p.src, p.offset, if p.dst.isSome then .call cls p.dst else .create cls⟩ =
     if p.dst.isSome then ⟨p.src, p.offset, .call cls p.dst⟩ else ⟨p.src, p.offset, .create cls⟩ := by
    split <;> rfl
   rw [map_append, map_singleton, told]
   refine .trans ?_ (kept.recorded.append_right _)
   simp only [records, append_assoc]
   exact ((flatMap_pkgs kept.pkgs _ _ cls p).append_left _).append_left _
 · rw [pkgs]
   exact nodup_amend kept.pkgs (fun k => (name_extend p k).trans) (name_extend p _)
 · rw [byMethod]
   exact nodup_amend kept.methods (fun _ => id) rfl
 · rw [byMethod]
   refine forall_mem_amend kept.classes (fun e inside _ => ?_) (by simp)
   exact nodup_amend (kept.classes e inside) (fun _ => id) rfl
 · have more := flatMap_pkgs kept.pkgs .mk Prod.mk cls p
   rw [ite_self] at more
   refine more.trans ((kept.owned.append_right _).trans ?_)
   simpa using (owned.map (·.2)).symm
 · intro e member
   rcases mem_append.mp (owned.mem_iff.mp member) with old | new
   · exact kept.srcs e old
   · rw [mem_singleton.mp new]
     exact src

end Kept

end Usage

end DexLens.Analysis
