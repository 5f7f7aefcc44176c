import DexLens.Proofs.Analysis.Exact
import DexLens.Proofs.Analysis.Ledger

/-! # What methods use is recorded

Names of instructions tell which of them call a method, create an object, access a field or name a text. The survey
of a file records the deeds that opcodes tell.
-/

namespace DexLens.Code

open Analysis Instr

/-- What an instruction does that is worth a record. -/
inductive Role where
 | call | create | access (a : Access) | text
 deriving DecidableEq

namespace Role

/-- Mnemonics tell what is done. -/
def ofName (name : String) : Option Role :=
 if Text.startsWith name "invoke-" then some .call
 else if Text.startsWith name "new-instance" then some .create
 else if Text.startsWith name "iget" || Text.startsWith name "sget" then some (.access .read)
 else if Text.startsWith name "iput" || Text.startsWith name "sput" then some (.access .write)
 else if Text.startsWith name "const-string" then some .text
 else none

/-- So do the numbers of opcodes. -/
def ofOpcode (op : Int) : Option Role :=
 if 0x52 ≤ op && op ≤ 0x6d then
  some (.access (if (0x59 ≤ op && op ≤ 0x5f) || 0x67 ≤ op then .write else .read))
 else if (0x6e ≤ op && op ≤ 0x72) || (0x74 ≤ op && op ≤ 0x78) then some .call
 else if op = 0x22 then some .create
 else if op = 0x1a || op = 0x1b then some .text
 else none

lemma ofOpcode_outside {op} (ho : op < 0 ∨ 0xe3 ≤ op) : ofOpcode op = none := by
 unfold ofOpcode
 simp only [Bool.or_eq_true, Bool.and_eq_true, decide_eq_true_eq]
 repeat rw [if_neg (by omega)]

end Role

/-- What an instruction does, by its name. -/
def Instr.role? (ins : Instr) : Option Role :=
 match ins.name with
 | .ok name => Role.ofName name
 | .error _ => none

/-- The opcodes of one byte tell what the names tell. Those of two bytes tell nothing. -/
lemma Instr.Plain.role {ins : Instr} (hp : ins.Plain) : Role.ofOpcode ins.op = if ins.op < 0xe3 then ins.role? else none := by
 have one : ∀ x ∈ Opcode.narrow, Role.ofName x.1.name = Role.ofOpcode x.2 := by decide +kernel
 have ht : Role.ofName "unresolved" = none := by decide +kernel
 obtain ⟨here, hd⟩ := hp
 cases hd with
 | payload _ hd =>
  have hi := Sweep.isPayload_of_payload? hd
  have ho : 0xe3 ≤ ins.op := by
   cases ins with
   | packedSwitch | sparseSwitch | arrayData => simp [op]
   | _ => cases hi
  rw [if_neg (by omega), Role.ofOpcode_outside (.inr ho)]
 | fail ho =>
  have ho : (0xe3 : Int) ≤ (Instr.fail _).op := Int.ofNat_le.mpr ho
  rw [if_neg (by omega), Role.ofOpcode_outside (.inr ho)]
 | unresolved =>
  rw [if_pos (by simp [op]), Role.ofOpcode_outside (.inl (by simp [op]))]
  exact ht.symm
 | @listed _ _ _ n info _ listed _ hs =>
  rw [hs.op]
  by_cases hn : n < 0xe3
  · have name := hs.name
    rw [Opcode.find?_listed listed, if_neg (by omega)] at name
    rw [if_pos (by omega), role?, name]
    rw [Opcode.listed?, if_neg Bool.false_ne_true, if_pos hn] at listed
    exact (one _ (Opcode.mem_narrow hn listed)).symm
  · rw [if_neg (by omega), Role.ofOpcode_outside (.inr (by omega))]

end DexLens.Code

namespace DexLens.Analysis

open Code Dex Lookup List Survey Option File Role Flow.Specimen

/-- The call behind a record: the class that is called, and the path. -/
def Record.call? : Record φ -> Option (String × Path)
 | ⟨method, offset, .call cls dst⟩ => some (cls, ⟨offset, method, dst⟩)
 | _ => none

namespace Usage

variable {d : File} {rs : List MRef}

/-- The deed of an instruction that has an index into one of the tables of the file. -/
def deedOf (d : File) (idx : Nat) : Role -> Option (Deed FieldSig)
 | .access a =>
  match d.fieldSigs idx with
  | .ok ⟨some cls, some type, some name⟩ => some (.access (cls, type, name) a)
  | _ => none
 | .call =>
  match d.methodSigs idx with
  | .ok names => some (.call (shown names.cls) (some idx))
  | _ => none
 | .create =>
  match d.type idx with
  | .ok t => some (.create t)
  | _ => none
 | .text =>
  match d.rawString idx with
  | .ok s => some (.text s .read)
  | _ => none

def deed? (d : File) (role : Option Role) (ins : Instr) : Option (Deed FieldSig) :=
 role.bind fun role => ins.index?.bind (deedOf d · role)

/-- Enter a deed into the tables. -/
def enter (u : Usage) (r : MRef) (method off : Nat) : Deed FieldSig -> Usage
 | .call cls dst => u.usePath cls r ⟨off, method, dst⟩
 | .create cls => u.usePath cls r ⟨off, method, none⟩
 | .access f a => u.useField f.1 f.2.1 f.2.2 method a off
 | .text s _ => u.useString s method off

lemma visit_eq (d : File) (r : MRef) (u : Usage) (off : Nat) (ins : Instr) :
  u.visit d r off ins = (deed? d (ofOpcode ins.op) ins).elim u (u.enter r (d.methodAt r).idx off) := by
 unfold visit deed?
 cases ins.index? with
 | none => cases ofOpcode ins.op <;> rfl
 | some idx =>
  unfold ofOpcode
  simp only
  split
  · simp only [bind_some, deedOf]
    rcases d.fieldSigs idx with _ | ⟨_ | _, _ | _, _ | _⟩ <;> rfl
  · split
    · simp only [bind_some, deedOf]
      cases d.methodSigs idx <;> rfl
    · split
      · simp only [bind_some, deedOf]
        cases d.type idx <;> rfl
      · split
        · simp only [bind_some, deedOf]
          cases d.rawString idx <;> rfl
        · rfl

lemma Kept.enter {u : Usage} (kept : u.Kept number log) (done : deedOf d idx role = some deed) :
  (u.enter r (number r) off deed).Kept number (log ++ [⟨number r, off, deed⟩]) := by
 cases role with
 | access a =>
  simp only [deedOf] at done
  split at done
  · cases done
    exact kept.useField _ _ _ _
  · cases done
 | call =>
  simp only [deedOf] at done
  split at done
  · cases done
    exact kept.usePath _ ⟨off, number r, some idx⟩ rfl
  · cases done
 | create =>
  simp only [deedOf] at done
  split at done
  · cases done
    exact kept.usePath _ ⟨off, number r, none⟩ rfl
  · cases done
 | text =>
  simp only [deedOf] at done
  split at done
  · cases done
    exact kept.useString _ _ _
  · cases done

/-! ## What is to be recorded -/

section

variable (d : File) (rs : List MRef)

/-- The instructions of methods with their offsets. -/
def sites : List (MRef × Nat × Instr) :=
 rs.flatMap fun r => (Flow.located 0 ((d.codeOf? r).elim [] (·.instrs))).map fun p => (r, p.1, p.2)

/-- The record of an instruction, by what it is said to do. -/
def recordAt (role : Instr -> Option Role) (s : MRef × Nat × Instr) : Option (Record FieldSig) :=
 (deed? d (role s.2.2) s.2.2).map fun deed => ⟨(d.methodAt s.1).idx, s.2.1, deed⟩

/-- The records of all calls, creations, accesses and texts of methods. -/
def log : List (Record FieldSig) := (sites d rs).filterMap (recordAt d Instr.role?)

/-- The index of every instruction that does something can be looked up. -/
def Valid : Prop := ∀ s ∈ sites d rs, s.2.2.role?.isSome = true -> (recordAt d Instr.role? s).isSome = true

end

lemma site_mem (hi : s ∈ sites d rs) : s.1 ∈ rs := by
 obtain ⟨r, hl, hi⟩ := mem_flatMap.mp hi
 obtain ⟨_, -, rfl⟩ := mem_map.mp hi
 exact hl

instance (d : File) (rs : List MRef) : Decidable (Valid d rs) := inferInstanceAs (Decidable (∀ s ∈ sites d rs, _))

/-! ## Runs -/

lemma Kept.visits {log : List (Record FieldSig)} {u : Usage} (kept : u.Kept (fun r => (d.methodAt r).idx) log)
  (ss : List (MRef × Nat × Instr)) :
  (ss.foldl (fun u s => u.visit d s.1 s.2.1 s.2.2) u).Kept (fun r => (d.methodAt r).idx)
   (log ++ ss.filterMap (recordAt d (ofOpcode ·.op))) := by
 induction ss generalizing u log with
 | nil => simpa using kept
 | cons s ss ih =>
  rw [foldl_cons, visit_eq]
  cases done : deed? d (ofOpcode s.2.2.op) s.2.2 with
  | none =>
   rw [filterMap_cons_none (by rw [recordAt, done]; rfl)]
   exact ih kept
  | some deed =>
   rw [filterMap_cons_some (by rw [recordAt, done]; rfl), append_cons]
   obtain ⟨role, -, done⟩ := bind_eq_some_iff.mp done
   obtain ⟨idx, -, done⟩ := bind_eq_some_iff.mp done
   exact ih (kept.enter done)

lemma foldl_visitMethod (d : File) (rs : List MRef) (u : Usage) :
  rs.foldl (visitMethod d) u = (sites d rs).foldl (fun u s => u.visit d s.1 s.2.1 s.2.2) u := by
 induction rs generalizing u with
 | nil => rfl
 | cons r rs ih =>
  rw [foldl_cons, ih, visitMethod, sites, sites, flatMap_cons, foldl_append, foldl_map]
  cases d.codeOf? r <;> rfl

/-- The tables before any method is visited: the fields that the file mentions. -/
def mentioned (d : File) : Usage :=
 d.mentionedFields.foldl (fun u f =>
  u.addField (shown f.names.cls) (shown f.names.type) (shown f.names.name)) default

lemma kept_mentioned (d : File) (number : MRef -> Nat) : (mentioned d).Kept number [] :=
 foldlRecOn _ _ .empty fun _ kept _ _ => kept.addField _ _ _

end Usage

namespace Survey

section

variable (d : File) (rs : List MRef)

/-- The methods before the first that has no flow. -/
def reached : List MRef := rs.takeWhile fun r => (Flow.ofMethod d r).isOk

/-- Why a visit of all methods ends before the end. -/
def obstacle? : Option Fault :=
 rs.findSome? fun r =>
  match Flow.ofMethod d r with
  | .error e => some e
  | .ok _ => none

def flowsOf : List (MRef × Flow) := rs.filterMap fun r => (Flow.ofMethod d r).toOption.map (r, ·)

lemma visitAll_eq (u : Usage) (fs : List (MRef × Flow)) : visitAll d rs u fs =
  ((reached d rs).foldl (Usage.visitMethod d) u, fs.reverse ++ flowsOf d (reached d rs), obstacle? d rs) := by
 induction rs generalizing u fs with
 | nil => simp [visitAll, reached, flowsOf, obstacle?]
 | cons r rs ih =>
  unfold visitAll reached obstacle?
  rw [takeWhile_cons, findSome?_cons]
  cases flow : Flow.ofMethod d r with
  | error e => simp [flowsOf, Except.isOk, Except.toBool]
  | ok f => simp [ih, flowsOf, flow, Except.isOk, Except.toBool, Except.toOption, reached, obstacle?]

end

variable {d : File} {rs : List MRef}

lemma reached_eq (free : obstacle? d rs = none) : reached d rs = rs := by
 refine takeWhile_eq_self_iff.mpr fun r hm => ?_
 have here := findSome?_eq_none_iff.mp free r hm
 cases flow : Flow.ofMethod d r with
 | error e => simp [flow] at here
 | ok f => rfl

lemma full_eq (hl : d.methods = .ok rs) : full d = match obstacle? d rs with
  | some e => .error e
  | none => .ok ⟨false, true, flowsOf d rs, rs.foldl (Usage.visitMethod d) (Usage.mentioned d)⟩ := by
 rw [full, Res.bind_of_ok hl, <- Usage.mentioned, visitAll_eq]
 cases free : obstacle? d rs with
 | some e => rfl
 | none =>
  rw [reached_eq free]
  rfl

lemma full_ok (hl : d.methods = .ok rs) (hs : full d = .ok v) : obstacle? d rs = none ∧
  v = ⟨false, true, flowsOf d rs, rs.foldl (Usage.visitMethod d) (Usage.mentioned d)⟩ := by
 rw [full_eq hl] at hs
 cases free : obstacle? d rs <;> simp_all

end Survey

namespace Usage

variable {d : File} {rs : List MRef}

lemma kept_of_full (hs : full d = .ok v) (hd : d.methods = .ok rs) :
  v.usage.Kept (fun r => (d.methodAt r).idx) ((sites d rs).filterMap (recordAt d (ofOpcode ·.op))) := by
 obtain ⟨-, rfl⟩ := full_ok hd hs
 rw [foldl_visitMethod]
 exact (kept_mentioned d _).visits _

/-! ## Completeness -/

lemma length_filterMap {xs : List α} (less : ∀ x ∈ xs, f x = none ∨ f x = g x) :
  (xs.filterMap f).length ≤ (xs.filterMap g).length ∧
   ((xs.filterMap f).length = (xs.filterMap g).length -> ∀ x ∈ xs, f x = g x) := by
 induction xs with
 | nil => exact ⟨le_rfl, fun _ => nofun⟩
 | cons x xs ih =>
  obtain ⟨hf, less⟩ := forall_mem_cons.mp less
  obtain ⟨hs, same⟩ := ih less
  by_cases ha : f x = g x
  · rw [forall_mem_cons]
    cases here : g x with
    | none =>
     rw [filterMap_cons_none here, filterMap_cons_none (ha.trans here)]
     exact ⟨hs, fun he => ⟨ha.trans here, same he⟩⟩
    | some b =>
     rw [filterMap_cons_some here, filterMap_cons_some (ha.trans here)]
     exact ⟨Nat.succ_le_succ hs, fun he => ⟨ha.trans here, same (Nat.succ.inj he)⟩⟩
  · have hn := hf.resolve_right ha
    obtain ⟨b, here⟩ := ne_none_iff_exists'.mp fun hi => ha (hn.trans hi.symm)
    rw [filterMap_cons_none hn, filterMap_cons_some here, length_cons]
    exact ⟨by omega, fun he => by omega⟩

lemma perm_filterMap_iff {xs : List α} (less : ∀ x ∈ xs, f x = none ∨ f x = g x) :
  (xs.filterMap f).Perm (xs.filterMap g) ↔ ∀ x ∈ xs, f x = g x :=
 ⟨((length_filterMap less).2 ·.length_eq), fun same => .of_eq (filterMap_congr same)⟩

def told (u : Usage) (k : String) : FieldSig := ((u.fields.find? (FieldUse.key · == k)).map FieldUse.names).getD ("", "", "")

/-- The calls of the table of classes. -/
def calls (u : Usage) : List (String × Path) := u.pkgs.flatMap fun k => k.calls.map (k.name, ·)

namespace Kept

variable {number : MRef -> Nat} {log : List (Record FieldSig)} {u : Usage} (kept : u.Kept number log)
 (r : MRef)

include kept

lemma waysOf_eq : u.waysOf r = u.owned.filterMap fun e => if e.1 = r then some e.2 else none := by
 have hp := filterMap_flatMap kept.methods r (fun t => t.flatMap fun c => c.2.map (c.1, ·)) Prod.mk
  (fun e => if e.1 = r then some e.2 else none) fun _ _ => rfl
 have hn : u.owned = u.byMethod.flatMap fun e => (e.2.flatMap fun c => c.2.map (c.1, ·)).map (.mk e.1) := by
  simp only [Usage.owned, map_flatMap, List.map_map, Function.comp_def]
 rw [hn, hp, waysOf, packagesOf]
 cases u.byMethod.lookup r <;> rfl

/-- Unless another method of this number calls or creates something. -/
lemma waysOf_perm_iff : (u.waysOf r).Perm (u.ways.filter (·.2.src = number r)) ↔
   ∀ r', number r' = number r -> r' = r ∨ u.waysOf r' = [] := by
 have all : (u.ways.filter (·.2.src = number r)).Perm
   (u.owned.filterMap fun e => if e.2.2.src = number r then some e.2 else none) := by
  refine (kept.owned.filter _).trans (.of_eq ?_)
  rw [<- filterMap_eq_filter, filterMap_map]
  refine filterMap_congr fun e _ => ?_
  simp [Option.guard]
 have own : ∀ e ∈ u.owned, (if e.1 = r then some e.2 else none) = none ∨
   (if e.1 = r then some e.2 else none) = if e.2.2.src = number r then some e.2 else none := by
  intro e hm
  by_cases here : e.1 = r
  · simp [here, kept.srcs e hm]
  · simp [here]
 rw [kept.waysOf_eq r, Perm.congr_right all, perm_filterMap_iff own]
 constructor
 · intro ha r' same
   rw [or_iff_not_imp_left, kept.waysOf_eq r']
   refine fun ho => filterMap_eq_nil_iff.mpr fun e hm => if_neg ?_
   rintro rfl
   have := ha e hm
   simp [ho, kept.srcs e hm, same] at this
 · intro only e hm
   by_cases here : e.1 = r
   · simp [here, kept.srcs e hm]
   · have hs : e.2.2.src ≠ number r := by
      intro same
      have hn := (only e.1 ((kept.srcs e hm).symm.trans same)).resolve_left here
      rw [kept.waysOf_eq, filterMap_eq_nil_iff] at hn
      simpa using hn e hm
     rw [if_neg here, if_neg hs]

lemma told_key (hm : f ∈ u.fields) : u.told f.key = f.names := by
 rw [told, (find?_eq_some_iff_mem kept.fields.keys).mpr ⟨hm, rfl⟩]
 rfl

lemma records_names : u.records FieldUse.names = (u.records FieldUse.key).map (Record.map u.told) := by
 simp only [records, recordsOf, packageRecords, packageItems, map_append, map_flatMap, List.map_map]
 congr 1
 refine flatMap_congr fun f hm => map_congr_left fun x _ => ?_
 simp only [Function.comp_apply, Record.map, Deed.map, kept.told_key hm]

lemma names_perm : (u.records FieldUse.names).Perm (log.map (Record.map (u.told ·.key))) := by
 rw [kept.records_names]
 refine (kept.recorded.map _).trans (.of_eq ?_)
 rw [List.map_map]
 refine map_congr_left fun x _ => ?_
 obtain ⟨method, offset, deed⟩ := x
 cases deed <;> rfl

lemma known_key (hm : x ∈ log) (ha : x.deed = .access f a) : ∃ g ∈ u.fields, g.key = f.key := by
 have hr := kept.recorded.mem_iff.mpr (mem_map_of_mem hm)
 rw [Record.map, ha] at hr
 rcases mem_append.mp hr with hi | hn
 · obtain ⟨g, hk, hs⟩ := mem_flatMap.mp hi
   obtain ⟨y, -, same⟩ := mem_map.mp hs
   rw [Deed.map, Record.mk.injEq, Deed.access.injEq] at same
   exact ⟨g, hk, same.2.2.1⟩
 · simp [recordsOf, packageRecords, packageItems, Deed.map] at hn

lemma calls_perm : u.calls.Perm (log.filterMap Record.call?) := by
 have hr := kept.recorded.filterMap Record.call?
 have same : (Record.call? ∘ .map FieldSig.key) = Record.call? := by
  funext ⟨method, offset, deed⟩
  cases deed <;> rfl
 have ho (k : Package) : (packageRecords (φ := String) k).filterMap Record.call? = k.calls.map (k.name, ·) := by
  simp [packageRecords, packageItems, filterMap_map, Function.comp_def, Record.call?]
 have ht {β : Type} (xs : List β) (places : β -> Places) (deed : β -> Access -> Deed String)
   (idle : ∀ x a m off, Record.call? ⟨m, off, deed x a⟩ = none) :
   (xs.flatMap (recordsOf places deed)).filterMap Record.call? = [] := by
  simp [filterMap_flatMap, recordsOf, filterMap_map, idle]
 rw [records, filterMap_append, filterMap_append, ht _ _ _ fun _ _ _ _ => rfl,
  ht _ _ _ fun _ _ _ _ => rfl, filterMap_flatMap, filterMap_map, same] at hr
 simpa only [calls, ho, nil_append] using hr

omit kept in
/-- If nothing of the larger log is left out and every field is kept under its own names. -/
lemma records_perm_iff {xs : List α}
  (kept : u.Kept number (xs.filterMap f)) (less : ∀ x ∈ xs, f x = none ∨ f x = g x) :
  (u.records FieldUse.names).Perm (xs.filterMap g) ↔ (∀ x ∈ xs, f x = g x) ∧
   ∀ x ∈ xs.filterMap g, ∀ n a, x.deed = .access n a -> ∃ e ∈ u.fields, e.names = n := by
 constructor
 · intro perm
   have same := (length_filterMap less).2 (by simpa using kept.names_perm.symm.length_eq.trans perm.length_eq)
   rw [filterMap_congr same] at kept
   refine ⟨same, fun x hm n a access => ?_⟩
   obtain ⟨⟨method, offset, deed⟩, hi, rfl⟩ := mem_map.mp ((kept.names_perm.symm.trans perm).mem_iff.mpr hm)
   cases deed with
   | access n' a' =>
    obtain ⟨e, hk, own⟩ := kept.known_key hi rfl
    cases access
    exact ⟨e, hk, (kept.told_key hk).symm.trans (congrArg u.told own)⟩
   | call | create | text => cases access
 · rintro ⟨same, own⟩
   rw [filterMap_congr same] at kept
   refine kept.names_perm.trans (.of_eq ((map_congr_left fun x hm => ?_).trans (map_id _)))
   obtain ⟨method, offset, deed⟩ := x
   cases deed with
   | access n a =>
    obtain ⟨e, hk, rfl⟩ := own _ hm n a rfl
    have ht : u.told (FieldSig.key e.names) = e.names := kept.told_key hk
    simp only [Record.map, Deed.map, ht, id]
   | call | create | text => rfl

end Kept

lemma plain_of_site {recode blob} (hl : load false recode blob = .ok d) (hm : s ∈ sites d rs) : s.2.2.Plain := by
 obtain ⟨r, -, hi⟩ := mem_flatMap.mp hm
 obtain ⟨p, here, rfl⟩ := mem_map.mp hi
 cases hk : d.codeOf? r with
 | none =>
  rw [hk] at here
  cases here
 | some c =>
  rw [hk] at here
  exact Flow.forall_located.mpr (Flow.plain_code hl hk).2.2 p here

lemma recordAt_ofOpcode {recode : Bool} {blob : Bytes} (hl : load false recode blob = .ok d)
  (hm : s ∈ sites d rs) : recordAt d (ofOpcode ·.op) s =
   if s.2.2.op < 0xe3 then recordAt d Instr.role? s else none := by
 rw [recordAt, (plain_of_site hl hm).role]
 split <;> rfl

/-- The tables of a survey hold the records of all instructions whose opcode has one byte, each once. So they hold all
    that names tell if and only if no wider opcode does anything and every accessed field has an entry of its own.
    What is kept under a method agrees with the tables if no other method of the same number calls or creates
    anything. -/
theorem usage_complete {recode : Bool} {blob : Bytes} {d : File} (loaded : load false recode blob = .ok d)
  {rs : List MRef} (listed : d.methods = .ok rs) {v : Survey} (surveyed : full d = .ok v)
  (valid : Valid d rs) : ((v.usage.records FieldUse.names).Perm (log d rs) ↔
   (∀ s ∈ sites d rs, s.2.2.role?.isSome = true -> s.2.2.op < 0xe3) ∧
   ∀ x ∈ log d rs, ∀ f a, x.deed = .access f a -> ∃ g ∈ v.usage.fields, g.names = f) ∧
  (v.usage.records FieldUse.key).Perm
   ((((sites d rs).filter (·.2.2.op < 0xe3)).filterMap (recordAt d Instr.role?)).map (Record.map FieldSig.key)) ∧
  (∀ m, (v.usage.stringsOf m).Perm
   (v.usage.strings.filterMap fun s => (s.places.lookup m).map fun ps => (s, ps))) ∧
  (∀ m, (v.usage.fieldsOf m).Perm
   (v.usage.fields.filterMap fun f => (f.places.lookup m).map fun ps => (f, ps))) ∧
  ∀ r, (v.usage.waysOf r).Perm (v.usage.ways.filter fun x => x.2.src = (d.methodAt r).idx) ↔
   ∀ r', (d.methodAt r').idx = (d.methodAt r).idx -> r' = r ∨ v.usage.waysOf r' = [] := by
 have kept := kept_of_full surveyed listed
 have hn : ∀ s ∈ sites d rs, recordAt d (fun ins => ofOpcode ins.op) s =
   if s.2.2.op < 0xe3 then recordAt d Instr.role? s else none := fun _ => recordAt_ofOpcode loaded
 refine ⟨?_, ?_, kept.strings.usedBy_perm, kept.fields.usedBy_perm, kept.waysOf_perm_iff⟩
 · rw [log, kept.records_perm_iff fun s hm => ?_]
   · refine and_congr_left' (forall₂_congr fun s hm => ?_)
     rw [hn s hm]
     constructor
     · intro same hd
       by_contra wide
       have hr := valid s hm hd
       rw [<- same, if_neg wide] at hr
       cases hr
     · intro one
       by_cases hi : s.2.2.op < 0xe3
       · rw [if_pos hi]
       · have idle : s.2.2.role? = none := not_isSome_iff_eq_none.mp fun hd => hi (one hd)
         rw [if_neg hi, recordAt, idle]
         rfl
   · rw [hn s hm]
     split
     · exact .inr rfl
     · exact .inl rfl
 · refine kept.recorded.trans (.of_eq (congrArg _ ?_))
   rw [filterMap_congr hn, filterMap_filter]
   simp only [decide_eq_true_eq]

/-! ## A specimen -/

lemma creation_surveyed : ∃ d, load false false (blob 3) = .ok d ∧ ∃ rs, d.methods = .ok rs ∧
  ∃ v, full d = .ok v ∧ Valid d rs ∧ (log d rs).length = 4 ∧ (v.usage.records FieldUse.names).length = 3 := by
 decide +kernel

/-- The tables of the specimen hold the records of its three narrow instructions. -/
theorem creation_usage : ∃ d rs v, load false false (blob 3) = .ok d ∧ d.methods = .ok rs ∧
  full d = .ok v ∧ Valid d rs ∧ (v.usage.records FieldUse.names).length = 3 ∧
  (v.usage.records FieldUse.key).Perm ((((sites d rs).filter (·.2.2.op < 0xe3)).filterMap
   (recordAt d Instr.role?)).map (Record.map FieldSig.key)) ∧
  (v.usage.stringsOf 0).Perm (v.usage.strings.filterMap fun s => (s.places.lookup 0).map fun ps => (s, ps)) := by
 obtain ⟨d, hd, rs, hl, v, hs, hv, -, hr⟩ := creation_surveyed
 obtain ⟨-, hn, ht, -⟩ := usage_complete hd hl hs hv
 exact ⟨d, rs, v, hd, hl, hs, hv, hr, hn, ht 0⟩

/-- Not every creation of the specimen is recorded. -/
theorem jumbo_creation_unrecorded : ∃ d rs v, load false false (blob 3) = .ok d ∧ d.methods = .ok rs ∧
  full d = .ok v ∧ Valid d rs ∧ ¬ (v.usage.records FieldUse.names).Perm (log d rs) := by
 obtain ⟨d, hd, rs, hl, v, hs, hv, he, hr⟩ := creation_surveyed
 refine ⟨d, rs, v, hd, hl, hs, hv, fun perm => ?_⟩
 have := perm.length_eq
 omega

end Usage

end DexLens.Analysis
