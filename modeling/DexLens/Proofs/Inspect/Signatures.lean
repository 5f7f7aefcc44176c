import DexLens.Inspect.Signature
import DexLens.Proofs.Analysis.Partition
import DexLens.Proofs.Inspect.Views

/-! # Signatures account for what methods use

Each block of a method has a group of marks: one for everything that the survey recorded in the block, by offset, and one
for the way in which the block ends.
-/

namespace DexLens.Inspect.Signature

open Analysis Code Dex Effect List Survey

/-! ## Marks in order -/

lemma markOrder_iff {a b : Nat × String} : markOrder a b = true ↔ toLex a ≤ toLex b := by
 rw [Prod.Lex.toLex_le_toLex, markOrder]
 rcases lt_trichotomy a.1 b.1 with less | same | more
 · simp [compare_lt_iff_lt.mpr less, less]
 · have texts : compare a.2 b.2 ≠ .gt ↔ a.2 ≤ b.2 := compare_le_iff_le
   simpa [compare_eq_iff_eq.mpr same, same] using texts
 · simp [compare_gt_iff_gt.mpr more, more.not_gt, more.ne']

lemma pairwise_sorted (ms : Marks) : (ms.mergeSort markOrder).Pairwise (toLex · ≤ toLex ·) := by
 have sorted : (ms.mergeSort markOrder).Pairwise (markOrder · · = true) := by
  refine pairwise_mergeSort (fun a b c => ?_) (fun a b => ?_) ms
  · simpa only [markOrder_iff] using le_trans
  · simpa only [Bool.or_eq_true, markOrder_iff] using le_total _ _
 simpa only [markOrder_iff] using sorted

/-- Does a mark lie in a block? -/
def inside (b : Block) (m : Nat × String) : Bool := b.start ≤ m.1 && m.1 < b.stop

/-- The mark of the end of a block comes after the marks in it. -/
lemma sorted_inside {last : Option (Nat × String)}
  (after : ∀ e ∈ last, inside b e = true ∧ ∀ m ∈ ms, inside b m = true -> m.1 < e.1) :
  ((last.toList ++ ms).mergeSort markOrder).filter (inside b) = (ms.filter (inside b)).mergeSort markOrder ++ last.toList := by
 refine Perm.eq_of_pairwise (fun _ _ _ _ first second => toLex.injective (le_antisymm first second))
  ((pairwise_sorted _).filter _) ?_ ?_
 · refine pairwise_append.mpr ⟨pairwise_sorted _, by cases last <;> simp, fun m hm e he => ?_⟩
   obtain ⟨hm, here⟩ := mem_filter.mp (mem_mergeSort.mp hm)
   exact Prod.Lex.toLex_le_toLex.mpr (.inl ((after e (by simpa using he)).2 m hm here))
 · refine ((mergeSort_perm _ _).filter _).trans ?_
   have held : last.toList.filter (inside b) = last.toList := filter_eq_self.mpr fun e he => (after e (by simpa using he)).1
   rw [filter_append, held]
   exact perm_append_comm.trans ((mergeSort_perm _ _).symm.append_right _)

lemma filter_tiles (tiles : Flow.Tiles least start stop bs) (ms : Marks) : start ≤ stop ∧
  (bs.flatMap fun b => ms.filter (inside b)).Perm (ms.filter fun m => start ≤ m.1 && m.1 < stop) := by
 induction bs generalizing start with
 | nil =>
  obtain rfl : start = stop := tiles
  exact ⟨le_rfl, .of_eq (filter_eq_nil_iff.mpr fun m _ => by simp).symm⟩
 | cons b bs ih =>
  obtain ⟨here, long, rest⟩ := tiles
  obtain ⟨less, perm⟩ := ih rest
  refine ⟨by omega, ?_⟩
  have split := filter_append_perm (fun m => decide (m.1 < b.stop)) (ms.filter fun m => start ≤ m.1 && m.1 < stop)
  rw [flatMap_cons]
  refine (perm.append_left _).trans (.trans (.of_eq ?_) split)
  rw [filter_filter, filter_filter]
  congr 1 <;> refine filter_congr fun m _ => ?_
  · simp only [inside, here]
    grind
  · grind

/-! ## Marks of what is recorded -/

/-- The instructions of a method with their offsets. -/
def codeOf (d : File) (r : MRef) : Located := Flow.located 0 ((d.codeOf? r).elim [] (·.instrs))

/-- A mark for every text, access, call and creation that tables keep for a method. -/
def events (d : File) (u : Usage) (r : MRef) : Marks :=
 ((u.stringsOf (d.methodAt r).idx).flatMap fun e => e.2.map fun x => (x.2, "S")) ++
  ((u.fieldsOf (d.methodAt r).idx).flatMap fun e => e.2.map fun x => (x.2, "F" ++ accessDigit x.1)) ++
  (u.packagesOf r).flatMap fun e => e.2.map fun p => (p.offset, s!"P{p.kind}")

lemma endMark_of_role (deed : Role.ofOpcode op = some role) : endMark op = none := by
 unfold Role.ofOpcode at deed
 unfold endMark
 simp only [Bool.or_eq_true, Bool.and_eq_true, decide_eq_true_eq] at deed ⊢
 repeat rw [if_neg]
 all_goals grind

section

variable {d : File} {rs : List MRef} {r : MRef} {u : Usage}

/-- What is recorded under the number of a method stands at one of its own instructions, and such an instruction does
    not end a block with a mark. -/
lemma at_of_recorded (kept : u.Kept (fun r => (d.methodAt r).idx) ((Usage.sites d rs).filterMap
   (Usage.recordAt d (Role.ofOpcode ·.op)))) (alone : ∀ x ∈ rs, (d.methodAt x).idx = (d.methodAt r).idx -> x = r)
  (recorded : x ∈ u.records FieldUse.key) (own : x.method = (d.methodAt r).idx) :
  ∃ p ∈ codeOf d r, p.1 = x.offset ∧ endMark p.2.op = none := by
 obtain ⟨y, logged, rfl⟩ := mem_map.mp (kept.recorded.mem_iff.mp recorded)
 obtain ⟨s, hs, made⟩ := mem_filterMap.mp logged
 obtain ⟨deed, done, rfl⟩ := Option.map_eq_some_iff.mp made
 obtain ⟨r', hr, inside⟩ := mem_flatMap.mp hs
 obtain ⟨p, hp, rfl⟩ := mem_map.mp inside
 obtain rfl := alone r' hr own
 obtain ⟨role, told, -⟩ := Option.bind_eq_some_iff.mp done
 exact ⟨p, hp, rfl, endMark_of_role told⟩

lemma recorded_of_usedBy {xs : List β} (he : e ∈ Usage.usedBy key places xs noted m) (hx : x ∈ e.2)
  (deed : β -> Access -> Deed φ) : ⟨m, x.2, deed e.1 x.1⟩ ∈ xs.flatMap (Usage.recordsOf places deed) := by
 obtain ⟨k, -, known⟩ := mem_filterMap.mp he
 obtain ⟨b, found, rfl⟩ := Option.map_eq_some_iff.mp known
 obtain ⟨⟨a, off, m'⟩, hy, same⟩ := mem_filterMap.mp hx
 obtain ⟨rfl, told⟩ := Option.ite_none_right_eq_some.mp same
 cases told
 exact mem_flatMap.mpr ⟨b, mem_of_find?_eq_some found, mem_map.mpr ⟨_, hy, rfl⟩⟩

/-- Every mark of a method stands at one of its instructions, before the mark of the end of a block. -/
lemma at_of_event (kept : u.Kept (fun r => (d.methodAt r).idx) ((Usage.sites d rs).filterMap
   (Usage.recordAt d (Role.ofOpcode ·.op)))) (alone : ∀ x ∈ rs, (d.methodAt x).idx = (d.methodAt r).idx -> x = r)
  (he : m ∈ events d u r) : ∃ p ∈ codeOf d r, p.1 = m.1 ∧ endMark p.2.op = none := by
 rcases mem_append.mp he with he | inPackages
 · rcases mem_append.mp he with inStrings | inFields
   · obtain ⟨e, used, hx⟩ := mem_flatMap.mp inStrings
     obtain ⟨x, placed, rfl⟩ := mem_map.mp hx
     have recorded := recorded_of_usedBy used placed fun s => Deed.text (φ := String) s.text
     exact at_of_recorded kept alone (mem_append_right _ (mem_append_left _ recorded)) rfl
   · obtain ⟨e, used, hx⟩ := mem_flatMap.mp inFields
     obtain ⟨x, placed, rfl⟩ := mem_map.mp hx
     have recorded := recorded_of_usedBy used placed fun f => Deed.access f.key
     exact at_of_recorded kept alone (mem_append_left _ recorded) rfl
 · obtain ⟨e, used, hx⟩ := mem_flatMap.mp inPackages
   obtain ⟨p, placed, rfl⟩ := mem_map.mp hx
   have way : (e.1, p) ∈ u.waysOf r := mem_flatMap.mpr ⟨e, used, mem_map.mpr ⟨p, placed, rfl⟩⟩
   rw [kept.waysOf_eq] at way
   obtain ⟨⟨r', w⟩, owned, same⟩ := mem_filterMap.mp way
   obtain ⟨rfl, rfl⟩ : r' = r ∧ w = (e.1, p) := by simpa using same
   obtain ⟨k, hk, item⟩ := mem_flatMap.mp (kept.owned.mem_iff.mpr (mem_map_of_mem owned))
   obtain ⟨x, hx, own, here⟩ : ∃ x ∈ Usage.packageRecords (φ := String) k, x.method = p.src ∧ x.offset = p.offset := by
    simp only [Usage.packageItems, Usage.packageRecords, mem_append, mem_map] at item ⊢
    rcases item with ⟨q, hq, same⟩ | ⟨q, hq, same⟩ <;> obtain rfl := (Prod.mk.inj same).2
    · exact ⟨_, .inl ⟨q, hq, rfl⟩, rfl, rfl⟩
    · exact ⟨_, .inr ⟨q, hq, rfl⟩, rfl, rfl⟩
   have recorded := mem_flatMap.mpr ⟨k, hk, hx⟩
   exact here ▸ at_of_recorded kept alone (mem_append_right _ (mem_append_right _ recorded)) (own.trans (kept.srcs _ owned))

end

/-! ## Ends of blocks -/

/-- The mark of the end of a block, if its last instruction has one. -/
def ending (all : Located) (b : Block) : Option (Nat × String) :=
 ((b.code all).getLast?.bind fun p => endMark p.2.op).map (b.stop - 1, ·)

lemma ending_after {all : Located} (order : all.Pairwise (·.1 < ·.1)) (ends : e ∈ ending all b) :
  inside b e = true ∧ ∀ p ∈ all, inside b (p.1, "") = true -> endMark p.2.op = none -> p.1 < e.1 := by
 obtain ⟨s, known, rfl⟩ := Option.map_eq_some_iff.mp ends
 obtain ⟨q, last, marked⟩ := Option.bind_eq_some_iff.mp known
 obtain ⟨front, split⟩ := getLast?_eq_some_iff.mp last
 have here : inside b (q.1, "") = true := (mem_filter.mp (split ▸ mem_append_right _ mem_cons_self : q ∈ b.code all)).2
 have order : (front ++ [q]).Pairwise (·.1 < ·.1) := split ▸ order.filter _
 refine ⟨by simp [inside] at here ⊢; omega, fun p hp within plain => ?_⟩
 have held : p ∈ front ++ [q] := split ▸ mem_filter.mpr ⟨hp, within⟩
 rcases mem_append.mp held with before | same
 · have := (pairwise_append.mp order).2.2 p before q mem_cons_self
   simp [inside] at here ⊢
   omega
 · obtain rfl := mem_singleton.mp same
   rw [plain] at marked
   cases marked

/-- The text of a block: some marks and the mark of its end. -/
def groupText (all : Located) (b : Block) (group : Marks) : String :=
 "B[" ++ String.join ((group ++ (ending all b).toList).map (·.2)) ++ "]"

/-- The marks that lie in a block, in order. -/
def groupIn (ms : Marks) (b : Block) : Marks := (ms.filter (inside b)).mergeSort markOrder

/-! ## Queries after a survey -/

lemma play_mapM_ok {f : α -> Query β} {g : α -> β} {xs : List α} (each : ∀ x ∈ xs, play (f x) s = (.ok (g x), s)) :
  play (xs.mapM f) s = (.ok (xs.map g), s) := by
 induction xs with
 | nil => rfl
 | cons x xs ih =>
  obtain ⟨first, rest⟩ := forall_mem_cons.mp each
  rw [mapM_cons, play_ok first, play_ok (ih rest)]
  rfl

/-- A full survey of the file is at hand, with the flow of a method. -/
structure Ready (d : File) (v : Survey) (r : MRef) (f : Flow) (s : Inspection) : Prop where
 file : play Inspect.file s = (.ok d, s)
 usage : play Inspect.usage s = (.ok v.usage, s)
 flow : play (Inspect.flow r) s = (.ok f, s)
 built : Flow.ofMethod d r = .ok f

section

variable {d : File} {rs : List MRef} {v : Survey} {r : MRef} {f : Flow} {s : Inspection}

lemma ready_of_full (surveyed : full d = .ok v) (listed : d.methods = .ok rs) (hm : r ∈ rs) (needs : Needs) :
  ∃ f, Ready d v r f { Inspection.start d needs false with survey := some v } := by
 obtain ⟨free, rfl⟩ := full_ok listed surveyed
 have here := findSome?_eq_none_iff.mp free r hm
 cases built : Flow.ofMethod d r with
 | error e => simp [built] at here
 | ok f =>
  refine ⟨f, rfl, play_usage_known rfl rfl, ?_, built⟩
  unfold Inspect.flow
  rw [play_ok (play_survey_known rfl)]
  have own {x : MRef} {e} (hf : (Flow.ofMethod d x).toOption.map (x, ·) = some e) : e.1 = x := by
   obtain ⟨_, -, rfl⟩ := Option.map_eq_some_iff.mp hf
   rfl
  have known : (flowsOf d rs).lookup r = _ := Lookup.filterMap_of_key (k := id) own (fun x _ y _ (same : x = y) => same ▸ rfl) hm
  simp only [known, built]
  rfl

namespace Ready

variable (ready : Ready d v r f s)

include ready

lemma play_marks (choice : Json) : play (marks 0 choice r) s = (.ok (events d v.usage r), s) := by
 have strings : play (stringMarks r) s = (.ok ((v.usage.stringsOf (d.methodAt r).idx).flatMap fun e =>
   e.2.map fun x => (x.2, "S")), s) := by
  unfold stringMarks
  rw [play_ok ready.file, play_ok ready.usage]
  rfl
 have fields : play (fieldMarks r) s = (.ok ((v.usage.fieldsOf (d.methodAt r).idx).flatMap fun e =>
   e.2.map fun x => (x.2, "F" ++ accessDigit x.1)), s) := by
  unfold fieldMarks
  rw [play_ok ready.file, play_ok ready.usage]
  rfl
 have pkgs : play (packageMarks kindMark r) s = (.ok ((v.usage.packagesOf r).flatMap fun e =>
   e.2.map fun p => (p.offset, s!"P{p.kind}")), s) := by
  unfold packageMarks
  rw [play_ok ready.usage, play_ok (play_mapM_ok fun e _ => play_mapM_ok fun p _ => by rfl)]
  rfl
 unfold marks
 rw [play_ok strings]
 exact (play_ok fields).trans ((play_ok pkgs).trans rfl)

lemma play_blockText (choice : Json)
  (after : ∀ b ∈ f.blocks.toList, ∀ e ∈ ending (codeOf d r) b,
   inside b e = true ∧ ∀ m ∈ events d v.usage r, inside b m = true -> m.1 < e.1) :
  play (blockText 0 choice r) s = (.ok (.join (f.blocks.toList.map fun b =>
   groupText (codeOf d r) b (groupIn (events d v.usage r) b))), s) := by
 have built := ready.built
 unfold blockText
 rw [play_ok ready.flow, play_ok ready.file]
 unfold codeOf at after ⊢
 cases known : d.codeOf? r with
 | none =>
  rw [Flow.ofMethod, known] at built
  cases built
  rfl
 | some c =>
  have decoded : play (Query.of c.decoded) s = (.ok c.instrs, s) := by
   rw [Flow.ofMethod, known] at built
   obtain ⟨is, decoded, -⟩ := Res.bind_ok built
   rw [decoded]
   unfold CodeItem.decoded at decoded
   split at decoded <;> cases decoded
   rfl
  refine (play_ok decoded).trans ((play_ok (play_mapM_ok fun b hb => ?_)).trans rfl)
  rw [known] at after
  rw [play_ok (ready.play_marks choice), groupText, groupIn, <- sorted_inside (after b hb)]
  simp only [ending, Option.elim_some, play_pure]
  cases (b.code (Flow.located 0 c.instrs)).getLast?.bind fun p => endMark p.2.op <;> rfl

lemma play_first (grammar : String) (options : Json) : play (ofMethod r "L0_0" grammar options) s =
  play (do return [("L0", Value.text (<- blockText 0 (Json.ofStrings []) r))]) s := by
 have resolved : resolve "L0_0" =
  .ok ("L0", .obj [("L0", .obj [("type", .nat 0), ("arguments", Json.ofStrings [])])]) := rfl
 have single : Text.split ':' "L0" = ["L0"] := rfl
 unfold ofMethod ofGrammar
 rw [show "L0_0".isEmpty = false from rfl, resolved]
 refine (play_ok ready.usage).trans ((play_ok ready.usage).trans ((play_ok ready.flow).trans ?_))
 rw [single, mapM_cons, mapM_nil]
 have first : level (.obj [("L0", .obj [("type", .nat 0), ("arguments", Json.ofStrings [])])]) r "L0" =
  blockText 0 (Json.ofStrings []) r >>= fun x => pure (Value.text x) := rfl
 simp only [first, bind_assoc, pure_bind]

end Ready

/-- The marks of a method stand in the blocks, each in one of them, and before the mark of its end. -/
lemma events_placed (loaded : File.load odex recode blob = .ok d) (listed : d.methods = .ok rs)
  (alone : ∀ x ∈ rs, (d.methodAt x).idx = (d.methodAt r).idx -> x = r) (surveyed : full d = .ok v)
  (built : Flow.ofMethod d r = .ok f) :
  (∀ b ∈ f.blocks.toList, ∀ e ∈ ending (codeOf d r) b,
   inside b e = true ∧ ∀ m ∈ events d v.usage r, inside b m = true -> m.1 < e.1) ∧
  (f.blocks.toList.flatMap fun b => (events d v.usage r).filter (inside b)).Perm (events d v.usage r) := by
 have placed : ∀ m ∈ events d v.usage r, ∃ p ∈ codeOf d r, p.1 = m.1 ∧ endMark p.2.op = none :=
  fun m he => at_of_event (Usage.kept_of_full surveyed listed) alone he
 unfold codeOf at placed ⊢
 cases known : d.codeOf? r with
 | none =>
  rw [known] at placed
  have idle : events d v.usage r = [] := eq_nil_iff_forall_not_mem.mpr fun m he => by simpa [Flow.located] using placed m he
  rw [Flow.ofMethod, known] at built
  cases built
  rw [idle]
  exact ⟨forall_mem_nil _, .nil⟩
 | some c =>
  rw [known] at placed
  obtain ⟨read, _, _, _, cut, rfl, -⟩ := Flow.ofMethod_divides loaded known built
  have tiles := Flow.tiles_bare.mp cut.tiles
  have long : ∀ p ∈ Flow.located 0 c.instrs, 0 < p.2.length := Flow.forall_located.mpr (Flow.advances_of_read read)
  have laid := Flow.laid_located 0 c.instrs
  refine ⟨fun b _ e ends => ?_, ?_⟩
  · obtain ⟨here, before⟩ := ending_after (laid.pairwise long) ends
    refine ⟨here, fun m he within => ?_⟩
    obtain ⟨p, hp, same, plain⟩ := placed m he
    exact same ▸ before p hp (by simpa [inside, same] using within) plain
  · refine (filter_tiles tiles _).2.trans (.of_eq (filter_eq_self.mpr fun m he => ?_))
    obtain ⟨p, hp, same, -⟩ := placed m he
    have bounds := laid.bounds p hp
    have := long p hp
    simp
    omega

/-- The method of the specimen names a text, makes a call and creates an object. -/
lemma creation_events : ∃ d, File.load false false (Flow.Specimen.blob 3) = .ok d ∧ ∃ rs, d.methods = .ok rs ∧
  Flow.Specimen.method ∈ rs ∧ (∀ x ∈ rs, (d.methodAt x).idx = (d.methodAt Flow.Specimen.method).idx ->
   x = Flow.Specimen.method) ∧ ∃ v, full d = .ok v ∧
  (events d v.usage Flow.Specimen.method).length = 3 := by
 decide +kernel

end

end DexLens.Inspect.Signature
