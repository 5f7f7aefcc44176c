import DexLens.Inspect.References
import DexLens.Proofs.Analysis.Usage
import DexLens.Proofs.CallGraph.Gathering
import DexLens.Proofs.Risk.Drawing

/-! # References are exact

Cross references go from instructions through the tables of a survey and the nodes of a map back to methods. Where
names tell methods apart, nothing gets lost or mixed up on the way.
-/

namespace DexLens.Analysis.Usage

open Code Dex List Usage

/-- The field that is accessed. -/
def Deed.field? {φ : Type} : Deed φ -> Option φ
 | .access n _ => some n
 | _ => none

def placesOf (d : File) (r : MRef) (p : Deed FieldSig -> Bool) : List Nat :=
 (sites d [r]).filterMap fun s => ((deed? d s.2.2.role? s.2.2).filter p).map fun _ => s.2.1

lemma filterMap_sites (hn : rs.Nodup) (hm : r ∈ rs) (ho : ∀ s ∈ sites d rs, s.1 ≠ r -> f s = none) :
  (sites d rs).filterMap f = (sites d [r]).filterMap f := by
 have own : ∀ x, ∀ s ∈ sites d [x], s.1 = x := by simp +contextual [sites]
 induction rs with
 | nil => cases hm
 | cons x xs ih =>
  have hp : sites d (x :: xs) = sites d [x] ++ sites d xs := by simp [sites]
  rw [hp] at ho ⊢
  obtain ⟨hf, hl⟩ := forall_mem_append.mp ho
  obtain ⟨hr, hn⟩ := nodup_cons.mp hn
  rw [filterMap_append]
  by_cases here : x = r
  · subst here
    have hno : (sites d xs).filterMap f = [] := by
     refine filterMap_eq_nil_iff.mpr fun s hi => hl s hi ?_
     obtain ⟨y, hs, hi⟩ := mem_flatMap.mp hi
     obtain ⟨_, _, rfl⟩ := mem_map.mp hi
     rintro rfl
     exact hr hs
    rw [hno, append_nil]
  · rw [ih hn ((mem_cons.mp hm).resolve_left (Ne.symm here)) hl,
     filterMap_eq_nil_iff.mpr fun s hi => hf s hi (by rwa [own x s hi]), nil_append]

/-- The access behind a record, if it is one to the field of a key. -/
def Record.access? (k : String) (x : Record String) : Option (Access × Nat × Nat) :=
 match x.deed with
 | .access l a => if l = k then some (a, x.offset, x.method) else none
 | _ => none

namespace Kept

variable {number : MRef -> Nat} {log : List (Record FieldSig)} {u : Usage}

lemma flat_perm (kept : u.Kept number log) (hm : f ∈ u.fields) :
  f.places.flat.Perm (log.filterMap fun x => Record.access? f.key (x.map FieldSig.key)) := by
 have all : (u.records FieldUse.key).filterMap (Record.access? f.key) = f.places.flat := by
  have keys : ((u.fields.map fun g => (g.key, g.places.flat)).map (·.1)).Nodup := by
   rw [map_map]
   exact kept.fields.keys
  have hp := Lookup.filterMap_flatMap keys f.key id (fun k x => (⟨x.2.2, x.2.1, .access k x.1⟩ : Record String))
   (Record.access? f.key) fun _ _ => rfl
  rw [(Lookup.eq_some_iff_mem keys).mpr (mem_map_of_mem hm), flatMap_map] at hp
  rw [records, filterMap_append]
  refine (congrArg₂ (· ++ ·) hp (filterMap_eq_nil_iff.mpr fun x hi => ?_)).trans (append_nil _)
  rcases mem_append.mp hi with text | way
  · obtain ⟨s, -, ht⟩ := mem_flatMap.mp text
    obtain ⟨y, -, rfl⟩ := mem_map.mp ht
    rfl
  · obtain ⟨k, -, ht⟩ := mem_flatMap.mp way
    rcases mem_append.mp ht with ht | ht <;> obtain ⟨y, -, rfl⟩ := mem_map.mp ht <;> rfl
 rw [<- all]
 exact (kept.recorded.filterMap _).trans (.of_eq filterMap_map)

lemma creation_mem (kept : u.Kept number log) (hk : k ∈ u.pkgs) (hm : p ∈ k.creations) :
  ⟨p.src, p.offset, .create k.name⟩ ∈ log := by
 have hi : ⟨p.src, p.offset, .create k.name⟩ ∈ u.records FieldUse.key :=
  mem_append_right _ (mem_append_right _ (mem_flatMap.mpr ⟨k, hk, mem_append_right _
   (mem_map.mpr ⟨p, hm, rfl⟩)⟩))
 obtain ⟨⟨method, offset, deed⟩, ht, same⟩ := mem_map.mp (kept.recorded.mem_iff.mp hi)
 cases deed <;> cases same
 exact ht

end Kept

/-! ## Grouping -/

variable {κ β : Type} [DecidableEq κ] (xs : List (κ × β))

def picks (k : κ) : List β := (xs.filter (·.1 = k)).map (·.2)

lemma grouped : ∃ t, t = xs.foldl (fun acc x => upsert acc x.1 (· ++ [x.2]) [x.2]) [] ∧
  (t.map (·.1)).Nodup ∧ ∀ k, t.lookup k = if picks xs k = [] then none else some (picks xs k) := by
 refine ⟨_, rfl, ?_⟩
 induction xs using reverseRecOn with
 | nil => exact ⟨.nil, fun _ => rfl⟩
 | append_singleton xs x ih =>
  rw [foldl_append, foldl_cons, foldl_nil]
  refine ⟨Lookup.nodup_amend ih.1 (fun _ => id) rfl, fun k => ?_⟩
  have more : picks (xs ++ [x]) k = picks xs k ++ if x.1 = k then [x.2] else [] := by
   unfold picks
   rw [filter_append, map_append]
   by_cases own : x.1 = k <;> simp [own]
  rw [lookup_upsert, ih.2, ih.2, more]
  by_cases own : k = x.1
  · subst own
    by_cases he : picks xs x.1 = [] <;> simp [he]
  · simp [own, Ne.symm own]

end DexLens.Analysis.Usage

namespace DexLens.Inspect

open Analysis CallGraph Code Dex Effect Inspect List Sig Risk Usage View

variable {rs : List MRef}

/-- Methods are listed with exactly the places that they have. -/
structure Exact {β : Type} (rs : List MRef) (places : MRef -> List β) (items : List (MRef × List β)) :
  Prop where
 once : (items.map (·.1)).Nodup
 lists : ∀ e ∈ items, e.1 ∈ rs ∧ e.2 ≠ [] ∧ e.2.Perm (places e.1)
 complete : ∀ r ∈ rs, places r ≠ [] -> r ∈ items.map (·.1)

lemma Exact.of_perm (he : Exact rs p items) (same : ∀ r ∈ rs, (p r).Perm (q r)) : Exact rs q items where
 once := he.once
 lists e hm := ⟨(he.lists e hm).1, (he.lists e hm).2.1, (he.lists e hm).2.2.trans (same _ (he.lists e hm).1)⟩
 complete r hm hs := he.complete r hm fun hn => hs (perm_nil.mp (hn ▸ (same r hm).symm))

lemma exact_grouped {xs : List (MRef × Nat)} (hi : ∀ x ∈ xs, x.1 ∈ rs) :
  Exact rs (picks xs) (xs.foldl (fun acc x => upsert acc x.1 (· ++ [x.2]) [x.2]) []) := by
 obtain ⟨t, made, keys, hf⟩ := grouped xs
 rw [<- made]
 refine ⟨keys, fun e hm => ?_, fun r _ hs => ?_⟩
 · have here := (Lookup.eq_some_iff_mem keys).mpr hm
   rw [hf] at here
   split at here
   · cases here
   · rename_i hs
     have own := Option.some.inj here
     obtain ⟨x, hl⟩ := exists_mem_of_ne_nil _ hs
     obtain ⟨y, hl, -⟩ := mem_map.mp hl
     obtain ⟨hl, same⟩ := mem_filter.mp hl
     exact ⟨of_decide_eq_true same ▸ hi y hl, own ▸ hs, .of_eq own.symm⟩
 · have here := hf r
   rw [if_neg hs] at here
   exact mem_map.mpr ⟨_, (Lookup.eq_some_iff_mem keys).mp here, rfl⟩

namespace View

variable {w : View}

/-! ## Names -/

section

variable (w : View) (r : MRef) (m : Sig)

def keyOf : String := (w.file.methodAt r).key

def numberOf : Nat := (w.file.methodAt r).idx

def joined : String := m.cls ++ m.name ++ m.desc

def mentioned : List Sig :=
 w.members.map w.named ++ w.usage.paths.flatMap fun p => [(w.call p).src, (w.call p).dst]

def fieldSigs (f : FieldRef) : Analysis.FieldSig :=
 ((w.file.fieldAt f).owner, (w.file.fieldAt f).sig, (w.file.fieldAt f).title)

/-- Names tell things apart, and nothing is on the map but calls and creations. -/
structure Clear (w : View) : Prop where
 legible : w.Legible
 uniq : (w.members.map w.named).Nodup
 spelled : ∀ r ∈ w.members, (w.file.spelling? (w.numberOf r)).map .ofTriple = some (w.named r)
 home : ∀ r ∈ w.members, (w.named r).cls ∈ w.titles
 apart : ∀ m ∈ w.mentioned, ∀ n ∈ w.mentioned, m.key = n.key ∨ joined m = joined n -> m = n
 classes : ∀ m ∈ w.mentioned, m.key ∉ w.titles
 fields : ∀ f ∈ w.classes.flatMap w.file.fieldsOf, ∀ s ∈ sites w.file w.members,
  ∀ n ∈ (deed? w.file s.2.2.role? s.2.2).bind Deed.field?, n.key = (w.fieldSigs f).key -> n = w.fieldSigs f
 narrow : ∀ s ∈ sites w.file w.members, s.2.2.role? = Role.ofOpcode s.2.2.op
 threads : ∀ c ∈ w.classes, c.parent ∉ threadParents
 loaders : ∀ k ∈ w.usage.pkgs, k.name = loaderClass -> k.creations = []

/-- Methods that create objects of the file call a method of the file or are called. -/
def Connected : Prop :=
 ∀ k ∈ w.usage.pkgs, k.name ∈ w.titles -> ∀ p ∈ k.creations, ∃ q ∈ w.usage.paths,
  (w.src q).1 ∈ w.titles ∧ (w.dst q).1 ∈ w.titles ∧ (w.src q = w.src p ∨ w.dst q = w.src p)

def inner : List Call :=
 (w.usage.paths.filter fun p => w.titles.contains (w.src p).1 && w.titles.contains (w.dst p).1).map w.call

/-- Does a deed call the method of a name? -/
def calling : Deed Analysis.FieldSig -> Bool
 | .call _ dst => (w.file.spelling? (dst.getD 0)).map .ofTriple = some m
 | _ => false

/-- The references of a method are those of its calls and of the calls that name it. -/
def Refers (refs : Refs × Refs) : Prop :=
 Exact w.members (fun s => (placesOf w.file s (w.calling (w.named r))).map some) refs.1.items ∧
  Exact w.members (fun s => (placesOf w.file r (w.calling (w.named s))).map some) refs.2.items

def Covers (drawn : List (MRef × Refs × Refs)) (rs : List MRef) : Prop :=
 ∀ r ∈ rs, ∃ refs, drawn.lookup r = some refs ∧ w.Refers r refs

/-- The traffic of fields is that of all accesses. -/
def Traced (traffic : List (FieldRef × FieldTraffic)) : Prop :=
 traffic.map (·.1) = w.classes.flatMap w.file.fieldsOf ∧ ∀ e ∈ traffic,
  Exact w.members (fun r => placesOf w.file r (· = .access (w.fieldSigs e.1) .read)) e.2.reads ∧
  Exact w.members (fun r => placesOf w.file r (· = .access (w.fieldSigs e.1) .write)) e.2.writes

/-- What the survey records. -/
def log : List (Record Analysis.FieldSig) :=
 (sites w.file w.members).filterMap (recordAt w.file fun ins => Role.ofOpcode ins.op)

end

namespace Clear

variable {r : MRef} {x : MRef × Nat × Instr}

variable (clear : w.Clear)

include clear

lemma nodup : w.members.Nodup := clear.uniq.of_map

lemma named_inj (hf : r ∈ w.members) (hs : s ∈ w.members) (same : w.named r = w.named s) : r = s :=
 inj_on_of_nodup_map clear.uniq hf hs same

lemma number_inj (hf : r ∈ w.members) (hc : s ∈ w.members) (same : w.numberOf r = w.numberOf s) : r = s := by
 have hs := clear.spelled r hf
 rw [same, clear.spelled s hc] at hs
 exact clear.named_inj hf hc (Option.some.inj hs).symm

lemma src_eq (hm : r ∈ w.members) (own : p.src = w.numberOf r) : ofTriple (w.src p) = w.named r := by
 obtain ⟨m, hf, same⟩ := Option.map_eq_some_iff.mp (clear.spelled r hm)
 rw [src, own, hf]
 exact same

omit clear in
lemma named_mem (hm : r ∈ w.members) : w.named r ∈ w.mentioned := mem_append_left _ (mem_map_of_mem hm)

omit clear in
lemma ends_mem (hm : c ∈ w.inner) : c.src ∈ w.mentioned ∧ c.dst ∈ w.mentioned := by
 obtain ⟨p, hl, rfl⟩ := mem_map.mp hm
 have hi := (mem_filter.mp hl).1
 exact ⟨mem_append_right _ (mem_flatMap.mpr ⟨p, hi, by simp⟩), mem_append_right _ (mem_flatMap.mpr ⟨p, hi, by simp⟩)⟩

lemma recordAt_eq (hi : x ∈ Usage.sites w.file w.members) : recordAt w.file (fun ins => Role.ofOpcode ins.op) x =
   (deed? w.file x.2.2.role? x.2.2).map fun deed => ⟨w.numberOf x.1, x.2.1, deed⟩ := by
 rw [clear.narrow x hi]
 rfl

lemma places_perm {β : Type} {xs : List β} {entry : Record Analysis.FieldSig -> Option β} {found : β -> Option Nat}
  {does : Deed Analysis.FieldSig -> Bool} (hm : r ∈ w.members) (drawn : xs.Perm (w.log.filterMap entry))
  (each : ∀ x ∈ sites w.file w.members, ∀ deed, deed? w.file x.2.2.role? x.2.2 = some deed ->
   (entry ⟨w.numberOf x.1, x.2.1, deed⟩).bind found = if x.1 = r ∧ does deed then some x.2.1 else none) :
  (xs.filterMap found).Perm (placesOf w.file r does) := by
 have here : ∀ x ∈ sites w.file w.members,
   ((recordAt w.file (fun ins => Role.ofOpcode ins.op) x).bind fun y => (entry y).bind found) =
    if x.1 = r then ((deed? w.file x.2.2.role? x.2.2).filter does).map fun _ => x.2.1 else none := by
  intro x hi
  rw [clear.recordAt_eq hi]
  cases done : deed? w.file x.2.2.role? x.2.2 with
  | none => simp
  | some deed =>
   rw [Option.map_some, Option.bind_some, each x hi deed done]
   by_cases own : x.1 = r <;> by_cases done : does deed = true <;> simp [own, done]
 refine (drawn.filterMap found).trans (.of_eq ?_)
 rw [log, filterMap_filterMap, filterMap_filterMap, filterMap_congr here,
  filterMap_sites clear.nodup hm fun x _ ho => if_neg ho]
 exact filterMap_congr fun x hi => if_pos (mem_singleton.mp (site_mem hi))

lemma inner_perm (kept : w.usage.Kept w.numberOf w.log) {s : MRef} (hf : r ∈ w.members) (hn : s ∈ w.members) :
  ((w.inner.filter fun c => c.src = w.named r ∧ c.dst = w.named s).map fun c => some c.offset).Perm
   ((placesOf w.file r (w.calling (w.named s))).map some) := by
 let found (p : Path) : Option Nat :=
  if ((w.src p).1 ∈ w.titles ∧ (w.dst p).1 ∈ w.titles) ∧ (w.call p).src = w.named r ∧ (w.call p).dst = w.named s
   then some p.offset else none
 have ht : (w.inner.filter fun c => c.src = w.named r ∧ c.dst = w.named s).map (fun c => some c.offset) =
   (w.usage.paths.filterMap found).map some := by
  rw [inner, filter_map, map_map, filter_filter, <- filterMap_eq_map, filterMap_filter, map_filterMap]
  refine filterMap_congr fun p _ => ?_
  simp only [found, Function.comp_apply, Bool.and_eq_true, decide_eq_true_eq, contains_iff_mem, and_comm]
  split <;> rfl
 rw [ht]
 refine (clear.places_perm hf kept.paths_perm fun x hi deed done => ?_).map some
 cases deed with
 | create | access | text => simp [Record.call?, calling]
 | call cls dst =>
  -- A recorded call comes from the method of its site, and both of its ends are spelled out.
  let p : Path := ⟨x.2.1, w.numberOf x.1, dst⟩
  have hk : p ∈ w.usage.paths := kept.paths_perm.mem_iff.mpr (mem_filterMap.mpr
   ⟨_, mem_filterMap.mpr ⟨x, hi, by rw [clear.recordAt_eq hi, done]; rfl⟩, rfl⟩)
  obtain ⟨m, hs⟩ := Option.isSome_iff_exists.mp (clear.legible p hk).2
  have hr : ofTriple (w.src p) = w.named x.1 := clear.src_eq (site_mem hi) rfl
  have goal : w.dst p = m := by rw [View.dst, hs, Option.getD_some]
  have hm : (w.src p).1 ∈ w.titles := by
   have home := clear.home x.1 (site_mem hi)
   rwa [<- hr] at home
  have into : ofTriple m = w.named s -> m.1 ∈ w.titles := by
   intro same
   have home := clear.home s hn
   rwa [<- same] at home
  have hd : w.named x.1 = w.named r ↔ x.1 = r := ⟨clear.named_inj (site_mem hi) hf, congrArg _⟩
  have hc : w.calling (w.named s) (.call cls dst) = decide (ofTriple m = w.named s) := by
   rw [calling, show w.file.spelling? (dst.getD 0) = some m from hs, Option.map_some]
   simp only [Option.some.injEq]
  change found p = _
  simp only [found, call, hr, goal, hm, hd, hc, true_and, decide_eq_true_eq]
  exact if_congr ⟨And.right, fun both => ⟨into both.2, both⟩⟩ rfl rfl

lemma fields_perm (kept : w.usage.Kept w.numberOf w.log) {f : FieldRef}
  (hl : f ∈ w.classes.flatMap w.file.fieldsOf) {e : FieldUse} (hm : e ∈ w.usage.fields)
  (own : e.key = (w.fieldSigs f).key) (here : r ∈ w.members) (a : Access) :
  (e.places.flat.filterMap fun x => if x.1 = a ∧ x.2.2 = w.numberOf r then some x.2.1 else none).Perm
   (placesOf w.file r (· = .access (w.fieldSigs f) a)) := by
 refine clear.places_perm here (kept.flat_perm hm) fun x hi deed done => ?_
 cases deed with
 | call | create | text => simp [Record.access?, Record.map, Deed.map]
 | access n b =>
  have same : n.key = e.key ↔ n = w.fieldSigs f := by
   rw [own]
   exact ⟨clear.fields f hl x hi n (by rw [done]; rfl), congrArg _⟩
  have number : w.numberOf x.1 = w.numberOf r ↔ x.1 = r :=
   ⟨clear.number_inj (site_mem hi) here, congrArg fun r => w.numberOf r⟩
  simp only [Record.access?, Record.map, Deed.map, same]
  by_cases hf : n = w.fieldSigs f <;> by_cases access : b = a <;> by_cases ht : x.1 = r <;>
   simp [number, hf, access, ht]

end Clear

/-! ## Questions -/

def told {κ : Type} [DecidableEq κ] (rs : List MRef) (key : MRef -> κ) (k : κ) : Option MRef :=
 ((rs.map fun r => (key r, r)).reverse.find? (·.1 == k)).map (·.2)

lemma told_eq_some {κ : Type} [DecidableEq κ] {rs} {key : MRef -> κ} (hn : (rs.map key).Nodup) {k r} :
  told rs key k = some r ↔ r ∈ rs ∧ key r = k := by
 have once : ((rs.map fun r => (key r, r)).reverse.map (·.1)).Nodup := by
  rw [map_reverse, map_map, nodup_reverse]
  exact hn
 rw [told, Option.map_eq_some_iff]
 simp only [Lookup.find?_eq_some_iff_mem once, mem_reverse, mem_map]
 constructor
 · rintro ⟨_, ⟨⟨s, hm, rfl⟩, own⟩, rfl⟩
   exact ⟨hm, own⟩
 · exact fun here => ⟨(k, r), ⟨⟨r, here.1, by rw [here.2]⟩, rfl⟩, rfl⟩

def methodOn (w : View) (g : Map) (n : Nat) : Option MRef :=
 told w.members w.keyOf (joined (g.spots.getD n default).method)

/-- An inspection of the file of a view that tells methods by it, with the references drawn so far. -/
structure Asked (w : View) (old : List (MRef × Refs × Refs)) (s : Inspection) : Prop where
 file : s.file = w.file
 survey : ∃ v, s.survey = some v ∧ v.usage = w.usage
 byKey : s.methodsByKey = none ∨ s.methodsByKey = some (w.members.map fun r => (w.keyOf r, r))
 byIndex : s.methodsByIndex = none ∨ s.methodsByIndex = some (w.members.map fun r => (w.numberOf r, r))
 references : s.methodRefs = old

variable {old : List (MRef × Refs × Refs)}

namespace Asked

variable {s : Inspection} (asked : w.Asked old s)

include asked

lemma play_file : play Inspect.file s = (.ok w.file, s) := by
 rw [<- asked.file]
 rfl

lemma play_look (hk : f w.file = .ok a) : play (look f) s = (.ok a, s) := by
 change play (Query.of (f s.file)) s = _
 rw [asked.file, hk]
 rfl

lemma record (new : List (MRef × Refs × Refs)) : w.Asked new { s with methodRefs := new } :=
 { asked with references := rfl }

lemma method? (k : String) : ∃ t, play (method? k) s = (.ok (told w.members w.keyOf k), t) ∧ w.Asked old t := by
 unfold Inspect.method?
 rw [play_ok (play_get s)]
 rcases asked.byKey with hu | hk
 · rw [hu]
   exact ⟨_, (play_ok asked.play_file).trans ((play_ok (asked.play_look w.methods_eq)).trans rfl),
    ⟨asked.file, asked.survey, .inr rfl, asked.byIndex, asked.references⟩⟩
 · rw [hk]
   exact ⟨s, rfl, asked⟩

lemma methodAt? (k : Nat) : ∃ t, play (methodAt? k) s = (.ok (told w.members w.numberOf k), t) ∧ w.Asked old t := by
 unfold Inspect.methodAt?
 rw [play_ok (play_get s)]
 rcases asked.byIndex with hu | hk
 · rw [hu]
   exact ⟨_, (play_ok asked.play_file).trans ((play_ok (asked.play_look w.methods_eq)).trans rfl),
    ⟨asked.file, asked.survey, asked.byKey, .inr rfl, asked.references⟩⟩
 · rw [hk]
   exact ⟨s, rfl, asked⟩

omit asked in
lemma mapM {α β : Type} {f : α -> Query β} {Q : α -> β -> Prop} {xs}
  (each : ∀ x ∈ xs, ∀ s, w.Asked old s -> ∃ b t, play (f x) s = (.ok b, t) ∧ w.Asked old t ∧ Q x b) {s}
  (asked : w.Asked old s) : ∃ bs t, play (xs.mapM f) s = (.ok bs, t) ∧ w.Asked old t ∧ Forall₂ Q xs bs := by
 induction xs generalizing s with
 | nil => exact ⟨[], s, rfl, asked, .nil⟩
 | cons x xs ih =>
  obtain ⟨hf, hl⟩ := forall_mem_cons.mp each
  obtain ⟨b, t, ends, asked, hn⟩ := hf s asked
  obtain ⟨bs, u, he, hs, ha⟩ := ih hl asked
  rw [mapM_cons]
  exact ⟨b :: bs, u, (play_ok ends).trans ((play_ok he).trans rfl), hs, .cons hn ha⟩

omit asked in
lemma mapM_bind {α β γ : Type} {f : α -> Query β} {Q : α -> β -> Prop} {xs} {k : List β -> Query γ} {c} {R : Inspection -> Prop} {s}
  (each : ∀ x ∈ xs, ∀ s, w.Asked old s -> ∃ b t, play (f x) s = (.ok b, t) ∧ w.Asked old t ∧ Q x b)
  (next : ∀ bs t, w.Asked old t -> Forall₂ Q xs bs -> ∃ u, play (k bs) t = (.ok c, u) ∧ R u)
  (asked : w.Asked old s) : ∃ u, play (xs.mapM f >>= k) s = (.ok c, u) ∧ R u := by
 obtain ⟨bs, t, ends, same, ha⟩ := Asked.mapM each asked
 obtain ⟨u, he, hk⟩ := next bs t same ha
 exact ⟨u, (play_ok ends).trans he, hk⟩

omit asked in
lemma foldlM {f : Refs -> Nat -> Query Refs} {P : List Nat -> Refs -> Prop} {ns d}
  (hr : ∀ n ∈ ns, ∀ d refs s, w.Asked old s -> P d refs ->
   ∃ refs' t, play (f refs n) s = (.ok refs', t) ∧ w.Asked old t ∧ P (d ++ [n]) refs')
  {r s} (asked : w.Asked old s) (ht : P d r) :
  ∃ refs' t, play (ns.foldlM f r) s = (.ok refs', t) ∧ w.Asked old t ∧ P (d ++ ns) refs' := by
 induction ns generalizing d r s with
 | nil => exact ⟨r, s, rfl, asked, by rwa [append_nil]⟩
 | cons n ns ih =>
  obtain ⟨hf, hl⟩ := forall_mem_cons.mp hr
  obtain ⟨refs₁, t, ends, asked, hn⟩ := hf d r s asked ht
  obtain ⟨refs₂, u, he, ha, hk⟩ := ih hl asked hn
  rw [append_assoc] at hk
  rw [foldlM_cons]
  exact ⟨refs₂, u, (play_ok ends).trans he, ha, hk⟩

lemma neighbours (g : Map) (ns : List Nat) (places : Nat -> Spot -> List (Option Nat)) :
  ∃ refs t, play (neighbours g ns places) s = (.ok refs, t) ∧ w.Asked old t ∧
   refs.items = ns.filterMap fun n => (w.methodOn g n).map fun r => (r, places n (g.spots.getD n default)) := by
 unfold Inspect.neighbours
 rw [play_ok asked.play_file]
 refine foldlM (P := fun done refs => refs.items = done.filterMap fun n =>
  (w.methodOn g n).map fun r => (r, places n (g.spots.getD n default)))
  (d := []) (fun n _ done refs s asked hi => ?_) asked rfl
 obtain ⟨t, hf, asked⟩ := asked.method? (joined (g.spots.getD n default).method)
 rw [<- methodOn] at hf
 cases here : w.methodOn g n with
 | none =>
  rw [here] at hf
  refine ⟨refs, t, (play_ok hf).trans rfl, asked, ?_⟩
  simp [filterMap_append, here, hi]
 | some r =>
  rw [here] at hf
  refine ⟨_, t, (play_ok hf).trans rfl, asked, ?_⟩
  rw [filterMap_append, <- hi, filterMap_cons, here]
  rfl

end Asked

/-! ## The map of the file -/

/-- The creations of objects of the file. -/
def created (w : View) : List (String × Sig × Nat) :=
 ((w.usage.pkgs.map fun k => (k.name, k.creations.filter fun p =>
  w.titles.contains (w.src p).1 && w.titles.contains k.name)).filter fun x => !x.2.isEmpty).flatMap fun x =>
   x.2.map fun p => (x.1, .ofTriple (w.src p), p.offset)

lemma mem_created : x ∈ w.created ↔ ∃ k ∈ w.usage.pkgs, k.name ∈ w.titles ∧
  ∃ p ∈ k.creations, (w.src p).1 ∈ w.titles ∧ x = (k.name, .ofTriple (w.src p), p.offset) := by
 constructor
 · intro hm
   obtain ⟨y, hs, hi⟩ := mem_flatMap.mp hm
   obtain ⟨k, hk, rfl⟩ := mem_map.mp (mem_filter.mp hs).1
   obtain ⟨p, hl, rfl⟩ := mem_map.mp hi
   obtain ⟨hm, both⟩ := mem_filter.mp hl
   simp only [Bool.and_eq_true, contains_iff_mem] at both
   exact ⟨k, hk, both.2, p, hm, both.1, rfl⟩
 · rintro ⟨k, hk, into, p, hm, hf, rfl⟩
   have hi : p ∈ k.creations.filter fun p => w.titles.contains (w.src p).1 && w.titles.contains k.name :=
    mem_filter.mpr ⟨hm, by simp [hf, into]⟩
   refine mem_flatMap.mpr ⟨_, mem_filter.mpr ⟨mem_map_of_mem hk, ?_⟩, mem_map.mpr ⟨p, hi, rfl⟩⟩
   simpa using ne_nil_of_mem hi

/-- What a key on the map stands for: a method that calls, is called or creates, or a class. -/
def Stands (w : View) (k : String) (m : Sig) : Prop :=
 k = m.key ∧ ((∃ c ∈ w.inner, m = c.src ∨ m = c.dst) ∨ ∃ x ∈ w.created, m = x.2.1) ∨ k ∈ w.titles

def mentions (w : View) : List Mention := w.inner.map Map.ofCall ++ w.created.map Map.ofCreation

/-- The calls that need a permission. -/
def needing (w : View) : List Path := (gather (w.usage.paths.map w.needed).flatten).flatMap fun x => x.2.filterMap fun
 | .call p => some p
 | .field _ _ _ _ => none

lemma Answers.flatMapM {α β : Type} {f : α -> Query (List β)} {g : α -> List β} {xs : List α}
  (h : ∀ x ∈ xs, w.Answers (f x) (g x)) : w.Answers (xs.flatMapM f) (xs.flatMap g) := by
 have loop : ∀ acc, w.Answers (flatMapM.loop f xs acc) (acc.reverse.flatten ++ xs.flatMap g) := by
  induction xs with
  | nil =>
   intro acc
   rw [flatMap_nil, append_nil]
   exact of_pure w _
  | cons x xs ih =>
   intro acc
   obtain ⟨hf, hl⟩ := forall_mem_cons.mp h
   have rest := ih hl (g x :: acc)
   rw [reverse_cons, flatten_append, flatten_singleton, append_assoc] at rest
   exact hf.bind rest
 exact loop []

namespace Clear

variable {k : Package} {p : Path} {m : Sig} {r : MRef} {n : Nat} {e : FieldUse} {f : FieldRef}

variable (clear : w.Clear) (kept : w.usage.Kept w.numberOf w.log)

include clear kept

omit clear in
lemma creation_src (hk : k ∈ w.usage.pkgs) (hm : p ∈ k.creations) : ∃ r ∈ w.members, p.src = w.numberOf r := by
 obtain ⟨x, hi, hr⟩ := mem_filterMap.mp (kept.creation_mem hk hm)
 obtain ⟨deed, -, same⟩ := Option.map_eq_some_iff.mp hr
 exact ⟨x.1, site_mem hi, (congrArg Record.method same).symm⟩

lemma answers_creation (hk : k ∈ w.usage.pkgs) (hm : p ∈ k.creations) : w.Answers (names p.src) (w.src p) := by
 obtain ⟨r, hi, own⟩ := creation_src kept hk hm
 obtain ⟨m, hs, -⟩ := Option.map_eq_some_iff.mp (clear.spelled r hi)
 rw [src, own, hs]
 exact answers_names hs

/-- The methods on the map are among those of the file and those that it calls, and belong to its classes. -/
lemma mem_of_stands (hs : (∃ c ∈ w.inner, m = c.src ∨ m = c.dst) ∨ ∃ x ∈ w.created, m = x.2.1) :
  m ∈ w.mentioned ∧ m.cls ∈ w.titles := by
 rcases hs with ⟨c, hb, own⟩ | ⟨x, hb, rfl⟩
 · have hm := ends_mem hb
   obtain ⟨p, hl, rfl⟩ := mem_map.mp hb
   have both := (mem_filter.mp hl).2
   simp only [Bool.and_eq_true, contains_iff_mem] at both
   rcases own with rfl | rfl
   · exact ⟨hm.1, both.1⟩
   · exact ⟨hm.2, both.2⟩
 · obtain ⟨k, hk, -, p, hl, hf, rfl⟩ := mem_created.mp hb
   obtain ⟨r, hi, own⟩ := creation_src kept hk hl
   exact ⟨clear.src_eq hi own ▸ named_mem hi, hf⟩

omit clear kept in
lemma needing_outside (hm : p ∈ w.needing) : p ∈ w.usage.paths ∧ (w.dst p).1 ∉ w.titles := by
 obtain ⟨need, hl, hi⟩ := mem_flatMap.mp hm
 obtain ⟨q, hp, hs⟩ := mem_filterMap.mp hi
 have ho : ∀ q ∈ need.2, ∃ p ∈ w.usage.paths, q = .call p ∧ (w.dst p).1 ∉ w.titles := by
  refine (gather_forall (P := fun _ => True) (fun x hl => ⟨trivial, fun q hp => ?_⟩) need hl).2
  obtain ⟨xs, one, hi⟩ := mem_flatten.mp hl
  obtain ⟨p, ht, rfl⟩ := mem_map.mp one
  refine ⟨p, ht, (of_mem_needed hi).2 q hp, fun into => ?_⟩
  rw [needed, if_neg (by simp [into])] at hi
  cases hi
 obtain ⟨p', ht, rfl, out⟩ := ho q hp
 obtain rfl := Option.some.inj hs
 exact ⟨ht, out⟩

lemma drawn_map : ∃ g, play (Build.addFile ⟨w.inner, w.created, [], w.needing.map w.call, []⟩ none) Map.empty =
  (.ok ⟨⟩, g) ∧ g.Drawn w.Stands w.mentions := by
 obtain ⟨g, hf, drawn⟩ := (Map.Drawn.empty (T := w.Stands)).addCalls w.inner fun c hm =>
  ⟨.inl ⟨rfl, .inl ⟨c, hm, .inl rfl⟩⟩, .inl ⟨rfl, .inl ⟨c, hm, .inr rfl⟩⟩⟩
 obtain ⟨h, hs, drawn⟩ := drawn.addCreations w.created fun x hm => by
  refine ⟨.inl ⟨rfl, .inr ⟨x, hm, rfl⟩⟩, .inr ?_⟩
  obtain ⟨k, -, into, -, -, -, rfl⟩ := mem_created.mp hm
  exact into
 have parts : play (Build.addParts ⟨w.inner, w.created, [], w.needing.map w.call, []⟩ none) .empty = (.ok ⟨⟩, h) :=
  (play_ok hf).trans (play_ok hs)
 refine ⟨h, (play_ok parts).trans (play_ok (Map.play_checkPermissions fun c hm hh => ?_)), drawn⟩
 obtain ⟨p, hl, rfl⟩ := mem_map.mp hm
 obtain ⟨hk, ho⟩ := needing_outside hl
 have hn : (w.call p).dst ∈ w.mentioned := mem_append_right _ (mem_flatMap.mpr ⟨p, hk, by simp⟩)
 obtain ⟨s, hi, same⟩ := mem_map.mp hh
 rcases drawn.told s hi with ⟨own, ht⟩ | hti
 · obtain ⟨hk, home⟩ := clear.mem_of_stands kept ht
   rw [clear.apart _ hk _ hn (.inl (own.symm.trans same))] at home
   exact ho home
 · exact clear.classes _ hn (same ▸ hti)

lemma answers_internalCreations : w.Answers internalCreations ((w.usage.pkgs.map fun k => (k.name, k.creations.filter fun p =>
  w.titles.contains (w.src p).1 && w.titles.contains k.name)).filter fun x => !x.2.isEmpty) := by
 refine w.answers_usage.bind (w.answers_classNames.bind (.bind (.mapM fun k hk => ?_) (.of_pure w _)))
 refine .bind (.filterM fun p hm => ?_) (.of_pure w (k.name, k.creations.filter fun p =>
  w.titles.contains (w.src p).1 && w.titles.contains k.name))
 exact (clear.answers_creation kept hk hm).bind (.of_pure w _)

omit kept in
lemma answers_threads : w.Answers threadBodies [] := by
 have hn : ThreadBody.among w.classes (w.members.map w.named) = [] := by
  rw [ThreadBody.among, filter_eq_nil_iff.mpr fun c hm => by simpa using clear.threads c hm]
  rfl
 exact hn ▸ w.answers_threadBodies

lemma answers_ofFile : ∃ g, w.Answers (Map.ofFile none) g ∧ g.Drawn w.Stands w.mentions := by
 have hi : w.Answers internalCalls _ := answers_callsWhere clear.legible fun cs src dst => cs.contains src && cs.contains dst
 have hca : w.Answers _ w.inner := answers_calls clear.legible fun p hm => (mem_filter.mp hm).1
 have hc : w.Answers (flatMapM (fun x : String × List Path => x.2.mapM fun p => do
   return (x.1, ofTriple (<- names p.src), p.offset)) _) w.created :=
  .flatMapM fun x hs => .mapM fun p hm => by
   obtain ⟨k, hk, rfl⟩ := mem_map.mp (mem_filter.mp hs).1
   exact (clear.answers_creation kept hk (mem_filter.mp hm).1).bind (.of_pure w _)
 have hn : w.Answers _ (w.needing.map w.call) := answers_calls clear.legible fun p hm => (needing_outside hm).1
 obtain ⟨g, hb, drawn⟩ := clear.drawn_map kept
 have hl : ((w.usage.pkgs.filter (·.name == loaderClass)).flatMap (·.creations)) = [] := by
  refine flatMap_eq_nil_iff.mpr fun k hm => ?_
  obtain ⟨hk, own⟩ := mem_filter.mp hm
  exact clear.loaders k hk (by simpa using own)
 have facts : w.Answers Facts.ofFile ⟨w.inner, w.created, [], w.needing.map w.call, []⟩ := by
  refine hi.bind (hca.bind ((clear.answers_internalCreations kept).bind (hc.bind (clear.answers_threads.bind
   ((answers_neededByCalls clear.legible).bind (hn.bind (w.answers_usage.bind ?_)))))))
  rw [hl]
  exact (Answers.of_pure w []).bind (.of_pure w _)
 refine ⟨g, facts.bind fun s hh => ⟨s, ?_, hh⟩, drawn⟩
 exact congrArg (fun x : Res Unit × Map => play (Query.of x.1 >>= fun _ => (pure x.2 : Query Map)) s) hb

/-! ## From nodes to methods -/

omit kept in
lemma keys_nodup : (w.members.map w.keyOf).Nodup :=
 clear.nodup.map_on fun _ hf _ hs same =>
  clear.named_inj hf hs (clear.apart _ (named_mem hf) _ (named_mem hs) (.inr same))

omit kept in
lemma told_joined (hm : m ∈ w.mentioned) : told w.members w.keyOf (joined m) = some r ↔ r ∈ w.members ∧ w.named r = m := by
 rw [told_eq_some clear.keys_nodup]
 refine and_congr_right fun hb => ⟨fun same => ?_, fun same => same ▸ rfl⟩
 exact clear.apart _ (named_mem hb) _ hm (.inr same)

omit kept in
lemma key_iff {m n : Sig} (hm : m ∈ w.mentioned) (hn : n ∈ w.mentioned) : some m.key = some n.key ↔ n = m :=
 ⟨fun same => (clear.apart _ hm _ hn (.inl (Option.some.inj same))).symm, fun same => same ▸ rfl⟩

variable {g : Map} (drawn : g.Drawn w.Stands w.mentions)

include drawn

lemma method_at (hm : m ∈ w.mentioned) (here : g.keyAt n = some m.key) : (g.spots.getD n default).method = m := by
 obtain ⟨s, at_n, same⟩ := Option.map_eq_some_iff.mp here
 rw [getD_eq_getElem?_getD, at_n, Option.getD_some]
 rcases drawn.told s (mem_of_getElem? at_n) with ⟨own, hs⟩ | ht
 · exact clear.apart _ (clear.mem_of_stands kept hs).1 _ hm (.inl (own.symm.trans same))
 · exact absurd (same ▸ ht) (clear.classes m hm)

lemma methodOn_eq_some (hm : m ∈ w.mentioned) (here : g.keyAt n = some m.key) :
  w.methodOn g n = some r ↔ r ∈ w.members ∧ w.named r = m := by
 rw [methodOn, clear.method_at kept drawn hm here, clear.told_joined hm]

omit kept in
lemma places_eq {a b n} (hf : m ∈ w.mentioned) (hs : n ∈ w.mentioned)
  (at_a : g.keyAt a = some m.key) (at_b : g.keyAt b = some n.key) :
  g.places a b = (w.inner.filter fun c => c.src = m ∧ c.dst = n).map fun c => some c.offset := by
 rw [drawn.places, mentions, filter_append, filter_map, filter_map, map_append, map_map, map_map,
  filter_eq_nil_iff (l := w.created) |>.mpr, map_nil, append_nil]
 · refine congrArg _ (filter_congr fun c hm => ?_)
   obtain ⟨hr, ht⟩ := ends_mem hm
   simp only [Function.comp_apply, Map.Joins, Map.ofCall, at_a, at_b, clear.key_iff hf hr, clear.key_iff hs ht]
 · intro x hm
   obtain ⟨k, -, into, -, -, -, rfl⟩ := mem_created.mp hm
   simp only [Function.comp_apply, Map.Joins, Map.ofCreation, at_b]
   exact fun hj => clear.classes n hs (Option.some.inj (of_decide_eq_true hj).2 ▸ into)

lemma exact_items {ns : List Nat} (once : ns.Nodup) (near far : Call -> Sig) {pl : Nat -> List (Option Nat)}
  (hm : ∀ c ∈ w.inner, near c ∈ w.mentioned)
  (hs : ∀ n, n ∈ ns ↔ ∃ c ∈ w.inner, g.keyAt n = some (near c).key ∧ far c = w.named r)
  (hh : ∀ c ∈ w.inner, ∃ n, g.keyAt n = some (near c).key)
  (same : ∀ n, ∀ s ∈ w.members, g.keyAt n = some (w.named s).key -> pl n =
   (w.inner.filter fun c => near c = w.named s ∧ far c = w.named r).map fun c => some c.offset) :
  Exact w.members (fun s => (w.inner.filter fun c => near c = w.named s ∧ far c = w.named r).map fun c => some c.offset)
   (ns.filterMap fun n => (w.methodOn g n).map fun s => (s, pl n)) := by
 have hf : ∀ n ∈ ns, ∀ s, w.methodOn g n = some s ->
   s ∈ w.members ∧ g.keyAt n = some (w.named s).key ∧ ∃ c ∈ w.inner, near c = w.named s ∧ far c = w.named r := by
  intro n hb s told
  obtain ⟨c, hl, here, own⟩ := (hs n).mp hb
  rw [clear.methodOn_eq_some kept drawn (hm c hl) here] at told
  exact ⟨told.1, told.2 ▸ here, c, hl, told.2.symm, own⟩
 refine ⟨?_, fun e hb => ?_, fun s hb hso => ?_⟩
 · rw [map_filterMap, Nodup, pairwise_filterMap]
   refine .imp_of_mem (fun {a b} hr hc hd s told s' ht he => ?_) once
   simp only [Option.map_map, Function.comp_def, Option.map_eq_some_iff] at told ht
   obtain ⟨_, told, rfl⟩ := told
   obtain ⟨_, ht, rfl⟩ := ht
   obtain rfl := he
   exact hd (Map.keyAt_inj drawn.keys (hf a hr _ told).2.1 (hf b hc _ ht).2.1)
 · obtain ⟨n, hi, here⟩ := mem_filterMap.mp hb
   obtain ⟨s, told, rfl⟩ := Option.map_eq_some_iff.mp here
   obtain ⟨hk, at_n, c, hl, own⟩ := hf n hi s told
   refine ⟨hk, ?_, .of_eq (same n s hk at_n)⟩
   rw [same n s hk at_n]
   exact ne_nil_of_mem (mem_map.mpr ⟨c, mem_filter.mpr ⟨hl, by simpa using own⟩, rfl⟩)
 · obtain ⟨_, hi⟩ := exists_mem_of_ne_nil _ hso
   obtain ⟨c, hi, -⟩ := mem_map.mp hi
   obtain ⟨hl, own⟩ := mem_filter.mp hi
   obtain ⟨own, own'⟩ : near c = w.named s ∧ far c = w.named r := by simpa using own
   obtain ⟨n, here⟩ := hh c hl
   refine mem_map.mpr ⟨(s, pl n), mem_filterMap.mpr ⟨n, (hs n).mpr ⟨c, hl, here, own'⟩, ?_⟩, rfl⟩
   rw [(clear.methodOn_eq_some kept drawn (hm c hl) here).mpr ⟨hb, own.symm⟩]
   rfl

omit clear kept drawn in
lemma call_iff : (∃ e ∈ w.mentions, e.call = true ∧ g.Joins e a b) ↔
  ∃ c ∈ w.inner, g.keyAt a = some c.src.key ∧ g.keyAt b = some c.dst.key := by
 simp [mentions, or_and_right, exists_or, Map.Joins, Map.ofCall, Map.ofCreation]

omit clear kept in
lemma ends_at (hm : c ∈ w.inner) : (∃ n, g.keyAt n = some c.src.key) ∧ ∃ n, g.keyAt n = some c.dst.key := by
 obtain ⟨hs, ht⟩ := drawn.known (Map.ofCall c) (mem_append_left _ (mem_map_of_mem hm))
 exact ⟨Map.exists_keyAt hs, Map.exists_keyAt ht⟩

lemma exact_into (hm : r ∈ w.members) (here : g.keyAt n = some (w.named r).key) :
  Exact w.members (fun s => (placesOf w.file s (w.calling (w.named r))).map some)
   ((g.calls.preds n).filterMap fun m => (w.methodOn g m).map fun s => (s, g.places m n)) := by
 refine (clear.exact_items kept drawn (drawn.calls.once n).2 (·.src) (·.dst)
  (fun c hl => (ends_mem hl).1) (fun m => ?_) (fun c hl => (ends_at drawn hl).1) fun m s hk at_m =>
   clear.places_eq drawn (named_mem hk) (named_mem hm) at_m here).of_perm fun s hk => ?_
 · rw [drawn.calls.preds, call_iff]
   refine exists_congr fun c => and_congr_right fun hl => and_congr_right fun _ => ?_
   rw [here, clear.key_iff (named_mem hm) (ends_mem hl).2]
 · exact clear.inner_perm kept hk hm

lemma exact_out (hm : r ∈ w.members) (here : g.keyAt n = some (w.named r).key) :
  Exact w.members (fun s => (placesOf w.file r (w.calling (w.named s))).map some)
   ((g.calls.succs n).filterMap fun m => (w.methodOn g m).map fun s => (s, g.places n m)) := by
 refine (clear.exact_items kept drawn (r := r) (drawn.calls.once n).1 (·.dst) (·.src)
  (fun c hl => (ends_mem hl).2) (fun m => ?_) (fun c hl => (ends_at drawn hl).2) fun m s hk at_m => ?_).of_perm
   fun s hk => ?_
 · rw [drawn.calls.succs, call_iff]
   refine exists_congr fun c => and_congr_right fun hl => ?_
   rw [here, clear.key_iff (named_mem hm) (ends_mem hl).1, and_comm]
 · rw [clear.places_eq drawn (named_mem hm) (named_mem hk) here at_m]
   simp only [and_comm]
 · simp only [and_comm]
   exact clear.inner_perm kept hm hk

omit clear kept in
lemma find_named : (g.spots.findIdx? (·.key == (w.file.methodAt r).owner ++ " " ++
  (w.file.methodAt r).title ++ " " ++ (w.file.methodAt r).sig) = some n) ↔ g.keyAt n = some (w.named r).key :=
 Map.find_iff drawn.keys

omit clear kept in
lemma referMethod_stuck (asked : w.Asked old s)
  (here : g.keyAt n = some (w.named r).key) (hs : n ∉ g.calls.nodes) : ∃ e t, play (referMethod g r) s = (.error e, t) := by
 unfold referMethod
 rw [play_ok asked.play_file]
 have flag : (!g.calls.nodes.contains n) = true := by simpa using hs
 simp only [(find_named drawn).mpr here, flag, if_true]
 exact ⟨.unknownName, _, rfl⟩

omit clear kept drawn in
lemma lookup_set (x : Refs × Refs) (l : List (MRef × Refs × Refs)) :
  ((r, x) :: l.filter (·.1 != r)).lookup s = if s = r then some x else l.lookup s := by
 by_cases same : s = r
 · simp [same]
 · rw [Lookup.cons_of_ne same, Lookup.filter_of_key, if_neg same, if_neg same]

lemma referMethod_exact (asked : w.Asked old s) (hm : r ∈ w.members)
  (free : ∀ n, g.keyAt n = some (w.named r).key -> n ∈ g.calls.nodes) :
  ∃ t new refs, play (referMethod g r) s = (.ok ⟨⟩, t) ∧ w.Asked new t ∧ w.Refers r refs ∧
   ∀ x, new.lookup x = if x = r then some refs else old.lookup x := by
 cases asked.references
 unfold referMethod
 rw [play_ok asked.play_file]
 cases hf : g.spots.findIdx? (·.key == (w.file.methodAt r).owner ++ " " ++ (w.file.methodAt r).title ++ " " ++
   (w.file.methodAt r).sig) with
 | none =>
  have hu : ∀ n, g.keyAt n ≠ some (w.named r).key := fun n here => by simp [(find_named drawn).mpr here] at hf
  have he : ∀ {c}, c ∈ w.inner -> c.src ≠ w.named r ∧ c.dst ≠ w.named r := fun hl =>
   ⟨fun own => (ends_at drawn hl).1.elim fun n here => hu n (own ▸ here),
    fun own => (ends_at drawn hl).2.elim fun n here => hu n (own ▸ here)⟩
  simp only [hf]
  refine ⟨_, _, (.none, .none), rfl, asked.record _,
   ⟨⟨.nil, nofun, fun x hi hs => ?_⟩, ⟨.nil, nofun, fun x hi hs => ?_⟩⟩, fun x => lookup_set _ _⟩
  · refine absurd (perm_nil.mp ((clear.inner_perm kept hi hm).symm.trans (.of_eq ?_))) hs
    simpa using fun c hl _ => (he hl).2
  · refine absurd (perm_nil.mp ((clear.inner_perm kept hm hi).symm.trans (.of_eq ?_))) hs
    simpa using fun c hl own => absurd own (he hl).1
 | some n =>
  have here := (find_named drawn).mp hf
  have flag : (!g.calls.nodes.contains n) = false := by simpa using free n here
  have hr := asked.record ((r, (.none, .none)) :: s.methodRefs.filter (·.1 != r))
  obtain ⟨into, t, ends, asked, hit⟩ := hr.neighbours g (g.calls.preds n) fun _ s => (s.uses.lookup n).getD []
  have hc := asked.record ((r, (into, .none)) :: t.methodRefs.filter (·.1 != r))
  obtain ⟨out, u, hn, ha, ht⟩ := hc.neighbours g (g.calls.succs n) fun v _ =>
   ((g.spots.getD n default).uses.lookup v).getD []
  simp only [hf, flag]
  refine ⟨{ u with methodRefs := (r, (into, out)) :: u.methodRefs.filter (·.1 != r) }, _, (into, out),
   (play_ok rfl).trans ((play_ok ends).trans ((play_ok rfl).trans ((play_ok hn).trans rfl))),
   ha.record _, ⟨?_, ?_⟩, fun x => ?_⟩
  · rw [hit]
    exact clear.exact_into kept drawn hm here
  · rw [ht]
    exact clear.exact_out kept drawn hm here
  · rw [lookup_set, ha.references, lookup_set, asked.references, lookup_set]
    split <;> simp [*]

lemma referClass_ok (asked : w.Asked old s) (i : Nat) (name : String) :
  ∃ t, play (referClass g i name) s = (.ok ⟨⟩, t) ∧ w.Asked old t := by
 unfold referClass
 rw [play_ok asked.play_file]
 cases hf : g.spots.findIdx? (·.key == name) with
 | none => exact ⟨s, rfl, asked⟩
 | some n =>
  have hr : ∀ m ∈ g.creations.succs n, ∃ r, w.methodOn g m = some r := by
   intro m hi
   obtain ⟨e, hl, kind, at_m, -⟩ := (drawn.creations.succs n m).mp hi
   obtain ⟨x, made, rfl⟩ : ∃ x ∈ w.created, e = Map.ofCreation x := by
    rcases mem_append.mp hl with call | hc
    · obtain ⟨c, -, rfl⟩ := mem_map.mp call
      cases kind
    · exact (mem_map.mp hc).imp fun x own => ⟨own.1, own.2.symm⟩
   have hm := (clear.mem_of_stands kept (.inr ⟨x, made, rfl⟩)).1
   obtain ⟨k, hk, -, p, hb, -, rfl⟩ := mem_created.mp made
   obtain ⟨r, hi, own⟩ := creation_src kept hk hb
   exact ⟨r, (clear.methodOn_eq_some kept drawn hm at_m).mpr ⟨hi, (clear.src_eq hi own).symm⟩⟩
  have ha : w.Asked old { s with classReferences := (i, .none) :: s.classReferences.filter (·.1 != i) } :=
   { asked with }
  exact (Asked.foldlM (P := fun _ _ => True) (d := []) (fun m hi _ refs s asked _ => by
   obtain ⟨r, told⟩ := hr m hi
   obtain ⟨t, ends, asked⟩ := asked.method? (joined (g.spots.getD m default).method)
   rw [<- methodOn, told] at ends
   exact ⟨refs.add w.file r (((g.spots.getD m default).uses.lookup n).getD []), _,
    (play_ok ends).trans rfl, { asked with }, trivial⟩)
   ha trivial).elim fun _ ends => ends.imp fun _ ends =>
    ⟨(play_ok rfl).trans ((play_ok ends.1).trans rfl), ends.2.1⟩

lemma connected_iff : w.Connected ↔ ∀ r ∈ w.members, ∀ n, g.keyAt n = some (w.named r).key -> n ∈ g.calls.nodes := by
 have node : ∀ {n m}, m ∈ w.mentioned -> g.keyAt n = some m.key -> (n ∈ g.calls.nodes ↔ ∃ c ∈ w.inner, c.src = m ∨ c.dst = m) := by
  intro n m hme here
  have one {x : Sig} := clear.key_iff (n := x) hme
  simp only [drawn.calls.nodes, call_iff, here]
  constructor
  · rintro ⟨k, ⟨c, hl, own, -⟩ | ⟨c, hl, -, own⟩⟩
    · exact ⟨c, hl, .inl ((one (ends_mem hl).1).mp own)⟩
    · exact ⟨c, hl, .inr ((one (ends_mem hl).2).mp own)⟩
  · rintro ⟨c, hl, own | own⟩
    · exact (ends_at drawn hl).2.imp fun k at_k => .inl ⟨c, hl, (one (ends_mem hl).1).mpr own, at_k⟩
    · exact (ends_at drawn hl).1.imp fun k at_k => .inr ⟨c, hl, at_k, (one (ends_mem hl).2).mpr own⟩
 have hj : ∀ {p : Path} {r : MRef}, ofTriple (w.src p) = w.named r ->
   ((∃ c ∈ w.inner, c.src = w.named r ∨ c.dst = w.named r) ↔ ∃ q ∈ w.usage.paths, (w.src q).1 ∈ w.titles ∧
    (w.dst q).1 ∈ w.titles ∧ (w.src q = w.src p ∨ w.dst q = w.src p)) := by
  intro p r own
  have ht : ∀ x y, ofTriple x = .ofTriple y ↔ x = y := by simp [ofTriple, Prod.ext_iff]
  simp only [inner, mem_map, mem_filter, Bool.and_eq_true, contains_iff_mem, <- own]
  constructor
  · rintro ⟨_, ⟨q, ⟨hk, hf, into⟩, rfl⟩, same⟩
    exact ⟨q, hk, hf, into, same.imp (ht _ _).mp (ht _ _).mp⟩
  · rintro ⟨q, hk, hf, into, same⟩
    exact ⟨_, ⟨q, ⟨hk, hf, into⟩, rfl⟩, same.imp (ht _ _).mpr (ht _ _).mpr⟩
 constructor
 · intro hd r hm n here
   rw [node (named_mem hm) here]
   obtain ⟨s, at_n, same⟩ := Option.map_eq_some_iff.mp here
   rcases drawn.told s (mem_of_getElem? at_n) with ⟨own, hs⟩ | hti
   · have hn := clear.apart _ (clear.mem_of_stands kept hs).1 _ (named_mem hm) (.inl (own.symm.trans same))
     rcases hs with ⟨c, hl, ends⟩ | ⟨x, made, hr⟩
     · exact ⟨c, hl, ends.imp (fun own => own.symm.trans hn) (fun own => own.symm.trans hn)⟩
     · obtain ⟨k, hk, into, p, hc, -, rfl⟩ := mem_created.mp made
       exact (hj (hr.symm.trans hn)).mpr (hd k hk into p hc)
   · exact absurd (same ▸ hti) (clear.classes _ (named_mem hm))
 · intro free k hk into p hc
   obtain ⟨r, hm, own⟩ := creation_src kept hk hc
   have hn := clear.src_eq hm own
   have hf : (w.src p).1 ∈ w.titles := by
    have home := clear.home r hm
    rwa [<- hn] at home
   have hw := drawn.known (Map.ofCreation (k.name, .ofTriple (w.src p), p.offset))
    (mem_append_right _ (mem_map_of_mem (mem_created.mpr ⟨k, hk, into, p, hc, hf, rfl⟩)))
   obtain ⟨n, at_n⟩ := Map.exists_keyAt hw.1
   change g.keyAt n = some (ofTriple (w.src p)).key at at_n
   rw [hn] at at_n
   exact (hj hn).mp ((node (named_mem hm) at_n).mp (free r hm n at_n))

/-! ## All methods -/

lemma class_round (asked : w.Asked old s) (hi : c ∈ w.classes) (i : Nat) (done : List MRef) (hw : w.Covers old done) :
  Decides (∀ r ∈ w.file.methodsOf c, ∀ n, g.keyAt n = some (w.named r).key -> n ∈ g.calls.nodes)
   (fun t => ∃ new, w.Asked new t ∧ w.Covers new (done ++ w.file.methodsOf c)) (do
    referClass g i c.title
    ((<- Inspect.file).methodsOf c).forM (referMethod g)) s := by
 obtain ⟨t, ends, asked⟩ := clear.referClass_ok kept drawn asked i c.title
 refine .after ends (.after asked.play_file (.forM (P := fun done s => ∃ old, w.Asked old s ∧ w.Covers old done)
  (fun r hm done s ⟨_, hs, hb⟩ => ⟨fun free => ?_, fun ht => ?_⟩) ⟨old, asked, hw⟩))
 · obtain ⟨u, new, refs, ends, asked, he, hl⟩ := clear.referMethod_exact kept drawn hs (mem_flatMap.mpr ⟨c, hi, hm⟩) free
   refine ⟨u, ends, new, asked, forall_mem_append.mpr ⟨fun x old => ?_, ?_⟩⟩
   · rw [hl]
     split
     · rename_i own
       exact ⟨refs, rfl, own ▸ he⟩
     · exact hb x old
   · exact forall_mem_singleton.mpr ⟨refs, by rw [hl, if_pos rfl], he⟩
 · simp only [not_forall] at ht
   obtain ⟨n, here, ht⟩ := ht
   exact referMethod_stuck drawn hs here ht

omit drawn in
lemma crossReference_spec (ha : play attach s = (.ok ⟨⟩, s')) (hs : w.Shown s') :
  Decides w.Connected (fun t => ∃ old, w.Asked old t ∧ w.Covers old w.members) (crossReference none) s := by
 obtain ⟨g, hn, drawn⟩ := clear.answers_ofFile kept
 obtain ⟨t, hp, hs⟩ := hn s' hs
 have asked : w.Asked _ t :=
  ⟨hs.file, hs.survey.imp fun v hk => ⟨hk.1, hk.2.2⟩, .inl hs.tables.1, .inl hs.tables.2, rfl⟩
 have all : w.classes.zipIdx.flatMap (fun x => w.file.methodsOf x.1) = w.members := by
  rw [<- flatMap_map (f := Prod.fst) (g := w.file.methodsOf), zipIdx_map_fst]
  rfl
 rw [clear.connected_iff kept drawn, <- all, forall_mem_flatMap]
 refine .after ha (.after hp (.after (asked.play_look w.defined) (.forM (d := [])
  (P := fun (done : List (ClassDef × Nat)) s => ∃ old, w.Asked old s ∧
   w.Covers old (done.flatMap fun x => w.file.methodsOf x.1))
  (fun x hm done s ⟨_, hs, hb⟩ => ?_) ⟨_, asked, by simp [Covers]⟩)))
 rw [flatMap_append, flatMap_singleton]
 exact clear.class_round kept drawn hs (fst_mem_of_mem_zipIdx hm) x.2 _ hb

/-! ## Fields -/

omit drawn in
lemma told_number (hm : e ∈ w.usage.fields) (hp : x ∈ e.places.flat) : ∃ r ∈ w.members, w.numberOf r = x.2.2 := by
 obtain ⟨y, hl, hf⟩ := mem_filterMap.mp ((kept.flat_perm hm).mem_iff.mp hp)
 obtain ⟨z, hi, hr⟩ := mem_filterMap.mp hl
 rw [clear.recordAt_eq hi] at hr
 obtain ⟨deed, -, rfl⟩ := Option.map_eq_some_iff.mp hr
 refine ⟨z.1, site_mem hi, ?_⟩
 cases deed with
 | access n a =>
  simp only [Record.access?, Record.map, Deed.map] at hf
  split at hf
  · rw [<- Option.some.inj hf]
  · cases hf
 | call | create | text => cases hf

omit kept drawn in
lemma told_of_number (hm : r ∈ w.members) : told w.members w.numberOf (w.numberOf r) = some r :=
 (told_eq_some (clear.nodup.map_on fun _ hf _ hs => clear.number_inj hf hs)).mpr ⟨hm, rfl⟩

omit clear kept drawn in
/-- The method and the offset of a place. -/
def finding (x : Access × Nat × Nat) : Query (MRef × Nat) := do
 match <- methodAt? x.2.2 with
 | some r => return (r, x.2.1)
 | none => throw .noPart

omit drawn in
lemma exact_side (hl : f ∈ w.classes.flatMap w.file.fieldsOf) (hm : e ∈ w.usage.fields)
  (own : e.key = (w.fieldSigs f).key) (a : Access) (asked : w.Asked old s) : ∃ xs t,
  play ((e.places.flat.filter (·.1 = a)).mapM finding) s = (.ok xs, t) ∧ w.Asked old t ∧
  Exact w.members (fun r => placesOf w.file r (· = .access (w.fieldSigs f) a))
   (xs.foldl (fun acc x => upsert acc x.1 (· ++ [x.2]) [x.2]) []) := by
 have each : ∀ x ∈ e.places.flat.filter (·.1 = a), ∃ r ∈ w.members, w.numberOf r = x.2.2 :=
  fun x hi => clear.told_number kept hm (mem_filter.mp hi).1
 choose! method hk number using each
 obtain ⟨xs, t, ends, hs, hn⟩ := Asked.mapM (f := finding) (Q := fun x b => (method x, x.2.1) = b) (fun x hi s asked => by
  obtain ⟨t, ends, asked⟩ := asked.methodAt? x.2.2
  rw [<- number x hi, clear.told_of_number (hk x hi), number x hi] at ends
  exact ⟨_, t, (play_ok ends).trans rfl, asked, rfl⟩) asked
 obtain rfl := forall₂_eq_eq_eq ▸ forall₂_map_left_iff.mpr hn
 refine ⟨_, t, ends, hs, (exact_grouped fun y hi => ?_).of_perm fun r here => ?_⟩
 · obtain ⟨x, hp, rfl⟩ := mem_map.mp hi
   exact hk x hp
 · refine (Perm.of_eq ?_).trans (clear.fields_perm kept hl hm own here a)
   rw [picks, filter_map, map_map, filter_filter, <- filterMap_eq_map, filterMap_filter]
   refine filterMap_congr fun x hp => ?_
   by_cases ha : x.1 = a
   · have hi : x ∈ e.places.flat.filter (·.1 = a) := mem_filter.mpr ⟨hp, by simpa using ha⟩
     have same : method x = r ↔ x.2.2 = w.numberOf r := by
      rw [<- number x hi]
      exact ⟨congrArg w.numberOf, clear.number_inj (hk x hi) here⟩
     simp [ha, same]
   · simp [ha]

omit drawn in
lemma unaccessed (hb : w.usage.field? (w.file.fieldAt f).owner (w.file.fieldAt f).title
  (w.file.fieldAt f).sig = none) (a : Access) :
  Exact w.members (fun r => placesOf w.file r (· = .access (w.fieldSigs f) a)) [] := by
 refine ⟨.nil, nofun, fun r hm hs => ?_⟩
 obtain ⟨off, hp⟩ := exists_mem_of_ne_nil _ hs
 obtain ⟨x, hi, done⟩ := mem_filterMap.mp hp
 obtain ⟨deed, done, -⟩ := Option.map_eq_some_iff.mp done
 obtain ⟨done, same⟩ := Option.filter_eq_some_iff.mp done
 have own : x.1 = r := mem_singleton.mp (site_mem hi)
 have ha : x ∈ sites w.file w.members := by
  rw [sites, flatMap_singleton, <- own] at hi
  exact mem_flatMap.mpr ⟨x.1, own ▸ hm, hi⟩
 have hl : ⟨w.numberOf x.1, x.2.1, deed⟩ ∈ w.log :=
  mem_filterMap.mpr ⟨x, ha, by rw [clear.recordAt_eq ha, done]; rfl⟩
 obtain ⟨e, hk, key⟩ := kept.known_key hl (of_decide_eq_true same)
 exact absurd (beq_iff_eq.mpr key) (find?_eq_none.mp hb e hk)

omit drawn in
lemma traceFields_exact (asked : w.Asked old s) : ∃ t, play traceFields s = (.ok ⟨⟩, t) ∧
  t.methodRefs = old ∧ w.Traced t.traffic := by
 obtain ⟨v, surveyed, used⟩ := asked.survey
 have attached : play attach s = (.ok ⟨⟩, { s with attached := true }) := (play_ok (play_survey_known surveyed)).trans rfl
 have asked : w.Asked old { s with attached := true } :=
  { asked with }
 have fields : w.file.fields = .ok (w.classes.flatMap w.file.fieldsOf) := by
  simp [File.fields, w.defined, bind, Except.bind, pure, Except.pure]
 unfold traceFields
 rw [play_ok attached, play_ok (play_survey_known (s := { s with attached := true }) surveyed), play_ok asked.play_file,
  play_ok (asked.play_look fields), used]
 refine Asked.mapM_bind (Q := fun f (b : FieldRef × FieldTraffic) => f = b.1 ∧
  Exact w.members (fun r => placesOf w.file r (· = .access (w.fieldSigs b.1) .read)) b.2.reads ∧
  Exact w.members (fun r => placesOf w.file r (· = .access (w.fieldSigs b.1) .write)) b.2.writes)
  (fun f listed s asked => ?_) (fun found t asked answers => ⟨{ t with traffic := found }, rfl, asked.references, ?_⟩) asked
 · cases held : w.usage.field? (w.file.fieldAt f).owner (w.file.fieldAt f).title (w.file.fieldAt f).sig with
   | none =>
    simp only [held]
    exact ⟨_, s, rfl, asked, rfl, clear.unaccessed kept held _, clear.unaccessed kept held _⟩
   | some use =>
    have member := (Lookup.find?_eq_some_iff_mem kept.fields.keys).mp held
    obtain ⟨rs, t, ends, asked, reads⟩ := clear.exact_side kept listed member.1 member.2 .read asked
    obtain ⟨ws, u, ends', asked', writes⟩ := clear.exact_side kept listed member.1 member.2 .write asked
    simp only [held]
    exact ⟨_, u, (play_ok ((play_ok ends).trans rfl)).trans ((play_ok ((play_ok ends').trans rfl)).trans rfl),
     asked', rfl, reads, writes⟩
 · refine ⟨(forall₂_eq_eq_eq ▸ forall₂_map_right_iff.mpr (answers.imp fun _ _ => And.left)).symm, ?_⟩
   generalize w.classes.flatMap w.file.fieldsOf = fs at answers
   induction answers with
   | nil => exact nofun
   | cons answer _ ih => exact forall_mem_cons.mpr ⟨answer.2, ih⟩

end Clear

instance (w : View) : Decidable w.Connected := inferInstanceAs (Decidable (∀ k ∈ w.usage.pkgs, _))

instance (w : View) : Decidable w.Clear :=
 decidable_of_iff ((w.Legible ∧ _ ∧ _ ∧ _ ∧ _) ∧ _ ∧ _ ∧ _ ∧ _ ∧ _)
  ⟨fun ⟨⟨a, b, c, d, e⟩, f, g, h, i, j⟩ => ⟨a, b, c, d, e, f, g, h, i, j⟩,
   fun ⟨a, b, c, d, e, f, g, h, i, j⟩ => ⟨⟨a, b, c, d, e⟩, f, g, h, i, j⟩⟩

/-- The references of a file, drawn by a fresh inspection: those of methods and those of fields. -/
structure Referenced (w : View) (t : Inspection) : Prop where
 methods : ∀ r ∈ w.members, ∃ refs, t.methodRefs.lookup r = some refs ∧ w.Refers r refs
 fields : w.Traced t.traffic

end View

/-- Where names tell methods and fields apart and nothing else is on the map, references are drawn if every method that creates
    an object of the file has calls, and then they are exact. Otherwise nothing is drawn at all. -/
theorem references_exact_iff {d : File} {cs : List ClassDef} (defined : d.classDefs = .ok cs) {v : Survey}
  (surveyed : Survey.full d = .ok v) (needs : Needs) (clear : (ofSurvey defined needs.calls v).Clear) :
  ((ofSurvey defined needs.calls v).Connected -> ∃ t,
   play (crossReference none >>= fun _ => traceFields) (.start d needs false) = (.ok ⟨⟩, t) ∧
   (ofSurvey defined needs.calls v).Referenced t) ∧
  (¬ (ofSurvey defined needs.calls v).Connected -> ∃ e t, play (crossReference none) (.start d needs false) = (.error e, t)) := by
 let w := ofSurvey defined needs.calls v
 have kept : w.usage.Kept w.numberOf w.log := kept_of_full surveyed w.methods_eq
 have attached : play attach (.start d needs false) =
   (.ok ⟨⟩, { Inspection.start d needs false with survey := some v, attached := true }) :=
  (play_ok (play_survey_ok surveyed needs)).trans rfl
 have shown := shown_ofSurvey defined surveyed needs
 obtain ⟨drawn, failed⟩ := clear.crossReference_spec kept attached { shown with }
 refine ⟨fun connected => ?_, failed⟩
 obtain ⟨t, ends, old, asked, covers⟩ := drawn connected
 obtain ⟨u, ends', same, traced⟩ := clear.traceFields_exact kept asked
 exact ⟨u, (play_ok ends).trans ends', ⟨same ▸ covers, traced⟩⟩

/-! ## Specimens -/

/-- A method that creates an object of its class, with a call of itself or without. -/
def creator (call : Bool) : Bytes := (Flow.Specimen.blob 1).set 228 (if call then 113 else 0)

lemma creator_clear : ∃ d, File.load false false (creator true) = .ok d ∧ ∃ cs, ∃ hd : d.classDefs = .ok cs,
  ∃ v, Survey.full d = .ok v ∧ (ofSurvey hd [] v).Clear ∧ (ofSurvey hd [] v).Connected ∧
   (ofSurvey hd [] v).inner.length = 1 := by
 decide +kernel

/-- The specimen refers to itself, as it does in its code. -/
theorem creator_referenced : ∃ d cs v, ∃ defined : d.classDefs = .ok cs, File.load false false (creator true) = .ok d ∧
  Survey.full d = .ok v ∧ (ofSurvey defined [] v).Clear ∧ (ofSurvey defined [] v).Connected ∧
  (ofSurvey defined [] v).inner.length = 1 ∧
  ∃ t, play (crossReference none >>= fun _ => traceFields) (.start d ⟨[], []⟩ false) = (.ok ⟨⟩, t) ∧
   (ofSurvey defined [] v).Referenced t := by
 obtain ⟨d, hl, cs, defined, v, hs, clear, hc, one⟩ := creator_clear
 exact ⟨d, cs, v, defined, hl, hs, clear, hc, one, (references_exact_iff defined hs ⟨[], []⟩ clear).1 hc⟩

/-- Without the call there are no references at all. -/
theorem creator_alone_fails : ∃ d, File.load false false (creator false) = .ok d ∧ ∃ cs, d.classDefs = .ok cs ∧
  (∀ c ∈ cs, c.parent ∉ threadParents) ∧ ∃ v, Survey.full d = .ok v ∧ (∀ k ∈ v.usage.pkgs, k.name ≠ loaderClass) ∧
  (play (crossReference none) (.start d ⟨[], []⟩ false)).1.isOk = false := by
 decide +kernel

end DexLens.Inspect
