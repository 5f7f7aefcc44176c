import DexLens.Analysis.Deferred
import DexLens.Proofs.Analysis.Usage

/-! # Tables on demand

What a light survey has in its tables depends on which methods its calls visited, and when fields and strings were
first shown.
-/

namespace DexLens.Analysis

open Code Dex List Lookup Usage

namespace Usage

variable (d : File) (rs : List MRef)

def entries : List (Record FieldSig) := (sites d rs).filterMap (recordAt d (Role.ofOpcode ·.op))

lemma entries_append (ss : List MRef) : entries d (rs ++ ss) = entries d rs ++ entries d ss := by simp [entries, sites]

lemma kept_visits : (rs.foldl (visitMethod d) default).Kept (fun r => (d.methodAt r).idx) (entries d rs) := by
 rw [foldl_visitMethod]
 exact Kept.empty.visits _

end Usage

namespace Survey

variable {d : File} {rs : List MRef}

lemma fill_eq (hl : d.methods = .ok rs) (v : Survey) :
  v.fill d = ({ v with resolved := true, usage := (reached d rs).foldl (visitMethod d) v.usage }, obstacle? d rs) := by
 rw [fill, hl]
 simp only [visitAll_eq]

lemma full_error_iff (hl : d.methods = .ok rs) : full d = .error e ↔ obstacle? d rs = some e := by
 rw [full_eq hl]
 cases obstacle? d rs <;> simp

end Survey

namespace Deferred

open Survey

/-! ## Visits -/

/-- Does a call ask for the tables? -/
def Call.asks : Call -> Bool
 | .next _ | .method _ => false
 | .pkgs | .things | .stringsOf _ | .fieldsOf _ => true

/-- Does it ask for the tables or fill them? -/
def Call.touches : Call -> Bool
 | .next _ => true
 | c => c.asks

/-- An iteration goes on where it stood; the tables are filled when they are asked for and nothing has touched them. -/
def visitedBy (rs : List MRef) (before : List Call) : Call -> List MRef
 | .next i => rs[before.count (.next i)]?.toList
 | .method _ => []
 | .pkgs | .things | .stringsOf _ | .fieldsOf _ => if before.any Call.touches then [] else rs

def visitedFrom (rs : List MRef) (before : List Call) : List Call -> List MRef
 | [] => []
 | c :: calls => visitedBy rs before c ++ visitedFrom rs (before ++ [c]) calls

section

variable (rs : List MRef) (calls others : List Call)

/-- The methods that calls visit one after the other. -/
def visited : List MRef := visitedFrom rs [] calls

lemma visited_append : visited rs (calls ++ others) = visited rs calls ++ visitedFrom rs calls others := by
 have ha : ∀ before, visitedFrom rs before (calls ++ others) =
   visitedFrom rs before calls ++ visitedFrom rs (before ++ calls) others := by
  induction calls with
  | nil => simp [visitedFrom]
  | cons c calls ih => simp [visitedFrom, ih]
 exact ha []

lemma visited_concat (c : Call) : visited rs (calls ++ [c]) = visited rs calls ++ visitedBy rs calls c := by
 rw [visited_append, visitedFrom, visitedFrom, append_nil]

end

lemma visitedBy_asks (asks : c.asks = true) (rs : List MRef) (before : List Call) :
  visitedBy rs before c = if before.any Call.touches then [] else rs := by
 cases c with
 | next | method => cases asks
 | pkgs | things | stringsOf | fieldsOf => rfl

variable {d : File} {rs : List MRef} {calls : List Call} {s : Deferred}

section

variable (d : File) (rs : List MRef)

def remaining (k : Nat) : List MRef := if k ≤ (reached d rs).length then rs.drop k else []

/-- A survey that has answered some calls. -/
structure Tracks (d : File) (rs : List MRef) (calls : List Call) (s : Deferred) : Prop where
 resolved : s.survey.resolved = calls.any Call.touches
 tables : s.survey.usage = (visited (reached d rs) calls).foldl (visitMethod d) default
 underway : ∀ i, s.underway.lookup i =
  if calls.count (.next i) = 0 then none else some (remaining d rs (calls.count (.next i)))

lemma Tracks.start : Tracks d rs [] start := ⟨rfl, rfl, fun _ => rfl⟩

lemma drop_reached (hb : k ≤ (reached d rs).length) :
  rs.drop k = (reached d rs).drop k ++ rs.dropWhile fun r => (Flow.ofMethod d r).isOk := by
 rw [<- drop_append_of_le_length hb, reached, takeWhile_append_dropWhile]

/-- An iteration stands at the next method to visit, or at the end, or before a method without flow. -/
lemma remaining_cases (k : Nat) :
  (∃ r f, remaining d rs k = r :: remaining d rs (k + 1) ∧ (reached d rs)[k]? = some r ∧ Flow.ofMethod d r = .ok f) ∨
  (reached d rs)[k]? = none ∧ remaining d rs (k + 1) = [] ∧
   (remaining d rs k = [] ∨ ∃ r rest e, remaining d rs k = r :: rest ∧ Flow.ofMethod d r = .error e) := by
 rcases lt_trichotomy k (reached d rs).length with less | rfl | more
 · have hm : (reached d rs)[k] ∈ reached d rs := getElem_mem less
   have here := mem_takeWhile_imp hm
   obtain ⟨f, flow⟩ : ∃ f, Flow.ofMethod d (reached d rs)[k] = .ok f := by
    cases flow : Flow.ofMethod d (reached d rs)[k] with
    | error e => simp [flow, Except.isOk, Except.toBool] at here
    | ok f => exact ⟨f, rfl⟩
   refine .inl ⟨(reached d rs)[k], f, ?_, getElem?_eq_getElem less, flow⟩
   have more : k + 1 ≤ (reached d rs).length := less
   rw [remaining, if_pos less.le, remaining, if_pos more, drop_reached d rs less.le, drop_reached d rs more,
    drop_eq_getElem_cons less, cons_append]
 · refine .inr ⟨getElem?_eq_none le_rfl, if_neg (by omega), ?_⟩
   rw [remaining, if_pos le_rfl, drop_reached d rs le_rfl, drop_length, nil_append]
   cases rest : rs.dropWhile fun r => (Flow.ofMethod d r).isOk with
   | nil => exact .inl rfl
   | cons r rest' =>
    have hf := head?_dropWhile_not (fun r => (Flow.ofMethod d r).isOk) rs
    rw [rest] at hf
    cases flow : Flow.ofMethod d r with
    | error e => exact .inr ⟨r, rest', e, rfl, flow⟩
    | ok f => simp [flow, Except.isOk, Except.toBool] at hf
 · exact .inr ⟨getElem?_eq_none more.le, if_neg (by omega), .inl (if_neg (by omega))⟩

end

namespace Tracks

lemma leave (tracks : Tracks d rs calls s) (i : Nat)
  (tables : u = (visitedBy (reached d rs) calls (.next i)).foldl (visitMethod d) s.survey.usage) :
  Tracks d rs (calls ++ [.next i]) (s.leave i (remaining d rs (calls.count (.next i) + 1)) u) where
 resolved := by simp [Deferred.leave, Call.touches]
 tables := by
  rw [visited_concat, foldl_append, <- tracks.tables]
  exact tables
 underway j := by
  rw [Deferred.leave, lookup_upsert, count_append, tracks.underway i]
  by_cases same : j = i
  · subst same
    have known : ∀ o : Option (List MRef),
      (o.map fun _ => remaining d rs (calls.count (.next j) + 1)).getD (remaining d rs (calls.count (.next j) + 1)) =
       remaining d rs (calls.count (.next j) + 1) := fun o => by cases o <;> rfl
    simp [known]
  · have other : Call.next i ≠ .next j := fun h => same (by injection h with h; exact h.symm)
    simp [same, tracks.underway j, other]

lemma next (ht : Tracks d rs calls s) (hl : d.methods = .ok rs) (i : Nat) :
  Tracks d rs (calls ++ [.next i]) (s.next d i).2 := by
 have rest : s.pending d i = .ok (remaining d rs (calls.count (.next i))) := by
  rw [pending, ht.underway i]
  by_cases hf : calls.count (.next i) = 0
  · rw [if_pos hf, hf, hl, remaining, if_pos (Nat.zero_le _), drop_zero]
  · rw [if_neg hf]
 rw [Deferred.next, rest]
 rcases remaining_cases d rs (calls.count (.next i)) with
  ⟨r, f, here, hr, flow⟩ | ⟨hn, gone, he | ⟨r, rest, e, here, flow⟩⟩
 · rw [here]
   simp only [flow]
   refine ht.leave i ?_
   rw [visitedBy, hr]
   rfl
 · rw [he]
   simp only
   rw [<- gone]
   refine ht.leave i ?_
   rw [visitedBy, hn]
   rfl
 · rw [here]
   simp only [flow]
   rw [<- gone]
   refine ht.leave i ?_
   rw [visitedBy, hn]
   rfl

lemma usage (ht : Tracks d rs calls s) (hl : d.methods = .ok rs) :
  (s.usage d).1 = (if calls.any Call.touches then .ok s.survey.usage else
   match obstacle? d rs with
   | some e => .error e
   | none => .ok ((reached d rs).foldl (visitMethod d) s.survey.usage)) ∧
  ∀ c, c.asks = true -> Tracks d rs (calls ++ [c]) (s.usage d).2 := by
 have hc : ∀ c : Call, c.asks = true -> c.touches = true := by
  intro c asks
  cases c with
  | next => rfl
  | _ => exact asks
 have same : ∀ c : Call, c.asks = true -> ∀ i, .next i ≠ c := by
  rintro c asks i rfl
  cases asks
 rw [Deferred.usage, ht.resolved]
 split
 · next he =>
    refine ⟨rfl, fun c asks => ⟨?_, ?_, fun i => ?_⟩⟩
    · simp [ht.resolved, hc c asks, he]
    · rw [visited_concat, visitedBy_asks asks, if_pos he, append_nil, ht.tables]
    · rw [count_append, count_singleton, ht.underway i]
      simp [(same c asks i).symm]
 · next hu =>
    rw [fill_eq hl]
    refine ⟨rfl, fun c asks => ⟨?_, ?_, fun i => ?_⟩⟩
    · simp [hc c asks]
    · rw [visited_concat, visitedBy_asks asks, if_neg hu, foldl_append, <- ht.tables]
    · rw [count_append, count_singleton, ht.underway i]
      simp [(same c asks i).symm]

lemma of_survey (ht : Tracks d rs calls s) (hs : t.survey = s.survey) (hu : t.underway = s.underway) : Tracks d rs calls t :=
 ⟨hs ▸ ht.resolved, hs ▸ ht.tables, hu ▸ ht.underway⟩

lemma after (ht : Tracks d rs calls s) (hl : d.methods = .ok rs) (c : Call) : Tracks d rs (calls ++ [c]) (s.after d c) := by
 have ha := (ht.usage hl).2
 cases c with
 | next i => exact ht.next hl i
 | method r =>
  refine ⟨?_, ?_, fun i => ?_⟩
  · simp [Deferred.after, Call.touches, Call.asks, ht.resolved]
  · rw [visited_concat, visitedBy, append_nil]
    exact ht.tables
  · simpa [Deferred.after] using ht.underway i
 | pkgs => exact ha .pkgs rfl
 | things => exact ha .things rfl
 | stringsOf m =>
  refine (ha (.stringsOf m) rfl).of_survey ?_ ?_ <;>
  · rw [Deferred.after, stringsOf]
    split <;> next same => rw [same]
 | fieldsOf m =>
  refine (ha (.fieldsOf m) rfl).of_survey ?_ ?_ <;>
  · rw [Deferred.after, fieldsOf]
    split <;> next same => rw [same]

end Tracks

lemma run_concat (d : File) (calls : List Call) (c : Call) : run d (calls ++ [c]) = (run d calls).after d c := by
 rw [run, foldl_append]
 rfl

lemma run_tracks (hl : d.methods = .ok rs) (calls : List Call) : Tracks d rs calls (run d calls) := by
 induction calls using reverseRecOn with
 | nil => exact .start d rs
 | append_singleton calls c ih =>
  rw [run_concat]
  exact ih.after hl c

end Deferred

/-! ## What is shown -/

/-- A thing that shows its places. -/
inductive Thing where
 | field (key : String)
 | string (text : String)
 deriving DecidableEq

/-- What is done with a thing. -/
def Thing.deed (t : Thing) (a : Access) : Deed String :=
 match t with
 | field k => .access k a
 | string s => .text s a

/-- The thing that a deed is about. -/
def Deed.thing? : Deed String -> Option Thing
 | .call _ _ | .create _ => none
 | .access k _ => some (.field k)
 | .text s _ => some (.string s)

namespace Usage

def spots {β : Type} (key : β -> String) (places : β -> Places) (xs : List β) (k : String) : List (Access × Nat × Nat) :=
 (xs.find? (key · == k)).elim [] fun x => (places x).flat

/-- The records of things that show some of their places. -/
def shownBy (key : β -> String) (shown : β -> List (Access × Nat × Nat)) (deed : String -> Access -> Deed String)
  (xs : List β) : List (Record String) :=
 xs.flatMap fun x => (shown x).map fun y => ⟨y.2.2, y.2.1, deed (key x) y.1⟩

lemma count_shownBy (hi : ∀ k a l b, deed k a = deed l b -> k = l ∧ a = b)
  (hn : (xs.map key).Nodup) (m off : Nat) (k : String) (a : Access) :
  (shownBy key shown deed xs).count ⟨m, off, deed k a⟩ =
   ((xs.find? (key · == k)).elim [] shown).count (a, off, m) := by
 induction xs with
 | nil => rfl
 | cons x xs ih =>
  rw [map_cons, nodup_cons] at hn
  rw [shownBy, flatMap_cons, count_append, <- shownBy, ih hn.2, find?_cons]
  have own : ((shown x).map fun y => (⟨y.2.2, y.2.1, deed (key x) y.1⟩ : Record String)).count ⟨m, off, deed k a⟩ =
    if key x = k then (shown x).count (a, off, m) else 0 := by
   split
   · next here =>
      subst here
      refine count_map_of_injective (shown x)
       (fun y => (⟨y.2.2, y.2.1, deed (key x) y.1⟩ : Record String)) (fun y z same => ?_) (a, off, m)
      obtain ⟨hf, hs, ht⟩ := Record.mk.inj same
      exact Prod.ext (hi _ _ _ _ ht).2 (Prod.ext hs hf)
   · next ho =>
      refine count_eq_zero.mpr fun hm => ?_
      obtain ⟨y, -, same⟩ := mem_map.mp hm
      exact ho (hi _ _ _ _ (Record.mk.inj same).2.2).1
  rw [own]
  by_cases here : key x = k
  · have ha : xs.find? (key · == k) = none := by
     refine find?_eq_none.mpr fun y hm same => hn.1 ?_
     rw [here, <- beq_iff_eq.mp same]
     exact mem_map_of_mem hm
    simp [here, ha]
  · rw [if_neg here, beq_eq_false_iff_ne.mpr here, zero_add]

lemma count_shownBy_other (key : β -> String) (shown : β -> List (Access × Nat × Nat)) (xs : List β)
  (ho : ∀ k a, x.deed ≠ deed k a) : (shownBy key shown deed xs).count x = 0 := by
 refine count_eq_zero.mpr fun hm => ?_
 obtain ⟨y, -, hi⟩ := mem_flatMap.mp hm
 obtain ⟨z, -, rfl⟩ := mem_map.mp hi
 exact ho _ _ rfl

/-- The records of tables whose fields and strings show some of their places. -/
def recordsShown (fieldShows : FieldUse -> List (Access × Nat × Nat)) (stringShows : StringUse -> List (Access × Nat × Nat))
  (u : Usage) : List (Record String) :=
 shownBy FieldUse.key fieldShows .access u.fields ++
  (shownBy StringUse.text stringShows .text u.strings ++ u.pkgs.flatMap packageRecords)

lemma count_recordsShown {u : Usage} (hf : (u.fields.map FieldUse.key).Nodup)
  (hs : (u.strings.map StringUse.text).Nodup) (fieldShows : FieldUse -> List (Access × Nat × Nat))
  (stringShows : StringUse -> List (Access × Nat × Nat)) (x : Record String) :
  (u.recordsShown fieldShows stringShows).count x = match x.deed with
   | .access k a => ((u.fields.find? (FieldUse.key · == k)).elim [] fieldShows).count (a, x.offset, x.method)
   | .text k a => ((u.strings.find? (StringUse.text · == k)).elim [] stringShows).count (a, x.offset, x.method)
   | .call _ _ | .create _ => (u.pkgs.flatMap packageRecords).count x := by
 obtain ⟨m, off, deed⟩ := x
 have hw : ∀ x : Record String, (∀ k t, x.deed ≠ .call k t) -> (∀ k, x.deed ≠ .create k) ->
   (u.pkgs.flatMap packageRecords).count x = 0 := by
  refine fun x hl hn => count_eq_zero.mpr fun hm => ?_
  obtain ⟨k, -, hi⟩ := mem_flatMap.mp hm
  rcases mem_append.mp hi with call | hc
  · obtain ⟨p, -, rfl⟩ := mem_map.mp call
    exact hl _ _ rfl
  · obtain ⟨p, -, rfl⟩ := mem_map.mp hc
    exact hn _ rfl
 rw [recordsShown, count_append, count_append]
 cases deed with
 | access k a =>
  rw [count_shownBy_other StringUse.text _ _ (by simp), hw _ (by simp) (by simp),
   count_shownBy (fun _ _ _ _ same => by cases same; exact ⟨rfl, rfl⟩) hf]
  rfl
 | text k a =>
  rw [count_shownBy_other FieldUse.key _ _ (by simp), hw _ (by simp) (by simp), zero_add,
   count_shownBy (fun _ _ _ _ same => by cases same; exact ⟨rfl, rfl⟩) hs]
  rfl
 | call | create =>
  rw [count_shownBy_other FieldUse.key _ _ (by simp), count_shownBy_other StringUse.text _ _ (by simp), zero_add, zero_add]

lemma Ledger.exists_spots (hl : Ledger key places xs noted) :
  (∃ x ∈ xs, key x = k ∧ m ∈ (places x).map (·.1)) ↔ ∃ y ∈ spots key places xs k, y.2.2 = m := by
 constructor
 · rintro ⟨x, hk, own, hp⟩
   obtain ⟨⟨m, ys⟩, hi, rfl⟩ := mem_map.mp hp
   obtain ⟨y, ht⟩ := exists_mem_of_ne_nil _ (hl.filled x hk _ hi)
   refine ⟨(y.1, y.2, m), ?_, rfl⟩
   rw [spots, (find?_eq_some_iff_mem hl.keys).mpr ⟨hk, own⟩]
   exact mem_flatMap.mpr ⟨(m, ys), hi, mem_map.mpr ⟨y, ht, rfl⟩⟩
 · rintro ⟨y, ht, rfl⟩
   rw [spots] at ht
   cases hf : xs.find? (key · == k) with
   | none => simp [hf] at ht
   | some x =>
    rw [hf] at ht
    obtain ⟨hk, own⟩ := (find?_eq_some_iff_mem hl.keys).mp hf
    obtain ⟨e, hi, spot⟩ := mem_flatMap.mp ht
    obtain ⟨z, -, rfl⟩ := mem_map.mp spot
    exact ⟨x, hk, own, mem_map_of_mem hi⟩

/-- What visits of methods record, fields told by their keys. -/
def deeds (d : File) (rs : List MRef) : List (Record String) := (entries d rs).map (Record.map FieldSig.key)

lemma deeds_append (d : File) (rs ss : List MRef) : deeds d (rs ++ ss) = deeds d rs ++ deeds d ss := by
 rw [deeds, entries_append, map_append]
 rfl

/-- The places of a thing. -/
def spotsOf (u : Usage) : Thing -> List (Access × Nat × Nat)
 | .field k => spots FieldUse.key FieldUse.places u.fields k
 | .string k => spots StringUse.text StringUse.places u.strings k

/-- Does a method use a thing? -/
def Uses (u : Usage) (m : Nat) : Thing -> Prop
 | .field k => ∃ f ∈ u.fields, f.key = k ∧ m ∈ f.places.map (·.1)
 | .string k => ∃ s ∈ u.strings, s.text = k ∧ m ∈ s.places.map (·.1)

namespace Kept

variable {number : MRef -> Nat} {log : List (Record FieldSig)} {u : Usage}

lemma count_deed (kept : u.Kept number log) (t : Thing) (y : Access × Nat × Nat) :
  (log.map (Record.map FieldSig.key)).count ⟨y.2.2, y.2.1, t.deed y.1⟩ = (u.spotsOf t).count y := by
 have hs : u.records FieldUse.key = u.recordsShown (·.places.flat) (·.places.flat) := rfl
 rw [<- kept.recorded.count_eq, hs, count_recordsShown kept.fields.keys kept.strings.keys]
 cases t <;> rfl

lemma mem_spotsOf (kept : u.Kept number log) (hm : x ∈ log.map (Record.map FieldSig.key)) (ha : x.deed.thing? = some t) :
  ∃ a, x.deed = t.deed a ∧ (a, x.offset, x.method) ∈ u.spotsOf t := by
 obtain ⟨m, off, deed⟩ := x
 obtain ⟨a, rfl⟩ : ∃ a, deed = t.deed a := by
  cases deed with
  | call | create => cases ha
  | access k a | text k a =>
   cases ha
   exact ⟨a, rfl⟩
 refine ⟨a, rfl, ?_⟩
 rw [<- count_pos_iff, <- kept.count_deed]
 exact count_pos_iff.mpr hm

lemma uses_iff (kept : u.Kept number log) (m : Nat) (t : Thing) :
  u.Uses m t ↔ ∃ x ∈ log.map (Record.map FieldSig.key), x.method = m ∧ x.deed.thing? = some t := by
 have hs : u.Uses m t ↔ ∃ y ∈ u.spotsOf t, y.2.2 = m := by
  cases t with
  | field k => exact kept.fields.exists_spots
  | string k => exact kept.strings.exists_spots
 rw [hs]
 constructor
 · rintro ⟨y, hm, rfl⟩
   refine ⟨⟨y.2.2, y.2.1, t.deed y.1⟩, ?_, rfl, by cases t <;> rfl⟩
   rw [<- count_pos_iff, kept.count_deed]
   exact count_pos_iff.mpr hm
 · rintro ⟨x, hm, rfl, ha⟩
   obtain ⟨a, -, spot⟩ := kept.mem_spotsOf hm ha
   exact ⟨_, spot, rfl⟩

end Kept

end Usage

namespace Shown

variable {β : Type} {key : β -> String} {places : β -> Places}

lemma shows_eq (t : Shown) (k : String) (now : List (Access × Nat × Nat)) :
  t.shows k now = if (t.lookup k).getD [] = [] then now else (t.lookup k).getD [] := by
 rw [shows]
 rcases t.lookup k with _ | _ | _ <;> simp

lemma elim_shows {xs : List β} {t : Shown} (used : spots key places xs k ≠ [] ∨ t.lookup k = none) :
  (xs.find? (key · == k)).elim [] (fun x => t.shows (key x) (places x).flat) = t.shows k (spots key places xs k) := by
 rw [spots] at used ⊢
 cases hf : xs.find? (key · == k) with
 | none =>
  rw [hf] at used
  simp [shows_eq, used.resolve_left (by simp)]
 | some x =>
  have own : key x = k := by simpa using find?_some hf
  simp [own]

lemma lookup_note (xs : List β) (ha : ∀ x ∈ xs, ∀ y ∈ xs, key x = key y -> x = y) (t : Shown) (k : String) :
  (t.note key places xs).lookup k = match xs.find? (key · == k) with
   | some x => some (t.shows k (places x).flat)
   | none => t.lookup k := by
 induction xs generalizing t with
 | nil => rfl
 | cons x xs ih =>
  have hf : (upsert t (key x) (fun _ => t.shows (key x) (places x).flat) (places x).flat).lookup k =
    if k = key x then some (t.shows (key x) (places x).flat) else t.lookup k := by
   rw [lookup_upsert]
   split
   · rw [shows]
     cases t.lookup (key x) <;> rfl
   · rfl
  rw [note, foldl_cons, <- note, ih fun y hs z hi => ha y (mem_cons_of_mem x hs) z (mem_cons_of_mem x hi), find?_cons]
  generalize upsert t (key x) (fun _ => t.shows (key x) (places x).flat) (places x).flat = t' at hf ⊢
  by_cases here : key x = k
  · subst here
    rw [if_pos rfl] at hf
    cases hn : xs.find? (key · == key x) with
    | none => simp [hf]
    | some y =>
     have same := ha y (mem_cons_of_mem x (mem_of_find?_eq_some hn)) x mem_cons_self
      (by simpa using find?_some hn)
     subst same
     have hg : shows t' (key y) (places y).flat = t.shows (key y) (places y).flat := by
      rw [shows_eq t', hf, Option.getD_some]
      split
      · next he =>
         rw [shows_eq] at he ⊢
         split at he
         · rw [if_pos ‹_›]
         · exact absurd he ‹_›
      · rfl
     simp [hg]
  · rw [if_neg (here ·.symm)] at hf
    simp only [beq_eq_false_iff_ne.mpr here, shows_eq, hf]

lemma lookup_note_usedBy (hl : Ledger key places xs noted)
  (t : Shown) (m : Nat) (k : String) [Decidable (∃ x ∈ xs, key x = k ∧ m ∈ (places x).map (·.1))] :
  (t.note key places ((usedBy key places xs noted m).map (·.1))).lookup k =
   if ∃ x ∈ xs, key x = k ∧ m ∈ (places x).map (·.1) then some (t.shows k (spots key places xs k))
   else t.lookup k := by
 have hm : ∀ x, x ∈ (usedBy key places xs noted m).map (·.1) ↔ x ∈ xs ∧ m ∈ (places x).map (·.1) := by
  intro x
  rw [((hl.usedBy_perm m).map (·.1)).mem_iff, mem_map]
  constructor
  · rintro ⟨_, hi, rfl⟩
    obtain ⟨x, hk, same⟩ := mem_filterMap.mp hi
    obtain ⟨ps, hf, rfl⟩ := Option.map_eq_some_iff.mp same
    exact ⟨hk, mem_map_of_mem ((eq_some_iff_mem (hl.methods x hk)).mp hf)⟩
  · rintro ⟨hk, hp⟩
    obtain ⟨e, hi, rfl⟩ := mem_map.mp hp
    have hf := (eq_some_iff_mem (hl.methods x hk)).mpr hi
    exact ⟨(x, e.2), mem_filterMap.mpr ⟨x, hk, by rw [hf]; rfl⟩, rfl⟩
 have ha : ∀ x ∈ (usedBy key places xs noted m).map (·.1),
   ∀ y ∈ (usedBy key places xs noted m).map (·.1), key x = key y -> x = y :=
  fun x hi y hn same => inj_on_of_nodup_map hl.keys ((hm x).mp hi).1 ((hm y).mp hn).1 same
 rw [lookup_note _ ha]
 cases hf : ((usedBy key places xs noted m).map (·.1)).find? (key · == k) with
 | none =>
  rw [if_neg]
  rintro ⟨x, hk, own, hp⟩
  exact absurd (beq_iff_eq.mpr own) (find?_eq_none.mp hf x ((hm x).mpr ⟨hk, hp⟩))
 | some x =>
  have own : key x = k := by simpa using find?_some hf
  obtain ⟨hk, hp⟩ := (hm x).mp (mem_of_find?_eq_some hf)
  rw [if_pos ⟨x, hk, own, hp⟩, spots, (find?_eq_some_iff_mem hl.keys).mpr ⟨hk, own⟩]
  rfl

end Shown

namespace Deferred

open Survey Usage

variable {d : File} {rs : List MRef} {calls : List Call} {s : Deferred}

/-- Does a call show a thing, with these records in the tables? -/
def Call.shows (c : Call) (log : List (Record String)) (t : Thing) : Bool :=
 match c, t with
 | .stringsOf m, .string _ | .fieldsOf m, .field _ => log.any fun x => decide (x.method = m ∧ x.deed.thing? = some t)
 | _, _ => false

lemma Call.of_shows {c : Call} {log : List (Record String)} (hs : c.shows log t = true) :
  c.asks = true ∧ ∃ x ∈ log, x.deed.thing? = some t := by
 cases c with
 | stringsOf m | fieldsOf m =>
  cases t with
  | field k | string k =>
   simp only [shows, any_eq_true, decide_eq_true_eq] at hs
   first
    | exact ⟨rfl, hs.imp fun x ⟨hm, _, ha⟩ => ⟨hm, ha⟩⟩
    | cases hs
 | _ => cases hs

/-- The calls up to the first that shows a thing. -/
def firstShown? (d : File) (rs : List MRef) (t : Thing) (before : List Call) : List Call -> Option (List Call)
 | [] => none
 | c :: calls =>
  if c.shows (deeds d (visited rs (before ++ [c]))) t then some (before ++ [c])
  else firstShown? d rs t (before ++ [c]) calls

lemma firstShown?_concat (d : File) (rs : List MRef) (t : Thing) (calls : List Call) (c : Call) :
  firstShown? d rs t [] (calls ++ [c]) = (firstShown? d rs t [] calls).or
   (if c.shows (deeds d (visited rs (calls ++ [c]))) t then some (calls ++ [c]) else none) := by
 have ha : ∀ before, firstShown? d rs t before (calls ++ [c]) = (firstShown? d rs t before calls).or
   (if c.shows (deeds d (visited rs (before ++ calls ++ [c]))) t then some (before ++ calls ++ [c]) else none) := by
  induction calls with
  | nil => simp [firstShown?]
  | cons c' calls ih =>
   intro before
   rw [cons_append, firstShown?, firstShown?]
   split
   · rfl
   · rw [ih]
     simp
 exact ha []

lemma of_firstShown? (hf : firstShown? d rs t [] calls = some shown) :
  shown <+: calls ∧ (∃ x ∈ deeds d (visited rs shown), x.deed.thing? = some t) ∧ ∃ c ∈ shown, c.asks = true := by
 induction calls using reverseRecOn with
 | nil => cases hf
 | append_singleton calls c ih =>
  rw [firstShown?_concat] at hf
  cases he : firstShown? d rs t [] calls with
  | some p =>
   rw [he] at hf
   obtain ⟨hb, hr⟩ := ih (he.trans hf)
   exact ⟨hb.trans (prefix_append calls [c]), hr⟩
  | none =>
   rw [he, Option.none_or] at hf
   split at hf
   · next hs =>
      cases hf
      obtain ⟨asks, hr⟩ := Call.of_shows hs
      exact ⟨prefix_rfl, hr, c, by simp, asks⟩
   · cases hf

section

variable (d : File) (i : Nat) (s : Deferred) (t : Thing) (now : List (Access × Nat × Nat))

/-- What a thing has shown. -/
def shownAt : Thing -> Option (List (Access × Nat × Nat))
 | .field k => s.fields.lookup k
 | .string k => s.strings.lookup k

/-- What a thing shows that has some places now. -/
def showing : List (Access × Nat × Nat) :=
 match t with
 | .field k => s.fields.shows k now
 | .string k => s.strings.shows k now

lemma showing_eq : s.showing t now = if (s.shownAt t).getD [] = [] then now else (s.shownAt t).getD [] := by
 cases t <;> exact Shown.shows_eq _ _ _

lemma showing_congr {s s' : Deferred} {t : Thing} (same : s'.shownAt t = s.shownAt t)
  (now : List (Access × Nat × Nat)) : s'.showing t now = s.showing t now := by
 rw [showing_eq, showing_eq, same]

lemma next_shownAt : (s.next d i).2.shownAt t = s.shownAt t := by
 rw [next]
 split
 · cases t <;> rfl
 · cases t <;> rfl
 · split <;> cases t <;> rfl

lemma usage_shownAt : (s.usage d).2.shownAt t = s.shownAt t := by
 rw [usage]
 split <;> cases t <;> rfl

end

lemma usage_ok (hl : d.methods = .ok rs) (free : obstacle? d rs = none) (s : Deferred) :
  s.usage d = (.ok (s.usage d).2.survey.usage, (s.usage d).2) := by
 rw [usage]
 split
 · rfl
 · rw [fill_eq hl, free]

lemma stringsOf_eq (hl : d.methods = .ok rs) (free : obstacle? d rs = none) (s : Deferred) (m : Nat) :
  (s.stringsOf d m).2 = { (s.usage d).2 with
   strings := (s.usage d).2.strings.note StringUse.text StringUse.places
    (((s.usage d).2.survey.usage.stringsOf m).map (·.1)) } := by
 rw [stringsOf, usage_ok hl free s]

lemma fieldsOf_eq (hl : d.methods = .ok rs) (free : obstacle? d rs = none) (s : Deferred) (m : Nat) :
  (s.fieldsOf d m).2 = { (s.usage d).2 with
   fields := (s.usage d).2.fields.note FieldUse.key FieldUse.places
    (((s.usage d).2.survey.usage.fieldsOf m).map (·.1)) } := by
 rw [fieldsOf, usage_ok hl free s]

namespace Tracks

lemma kept (ht : Tracks d rs calls s) :
  s.survey.usage.Kept (fun r => (d.methodAt r).idx) (entries d (visited (reached d rs) calls)) := by
 rw [ht.tables]
 exact kept_visits d _

lemma after_shownAt (hr : Tracks d rs calls s) (hs : d.methods = .ok rs) (free : obstacle? d rs = none)
  (c : Call) (t : Thing) : (s.after d c).shownAt t =
   if c.shows (deeds d (visited rs (calls ++ [c]))) t then some (s.showing t ((s.after d c).survey.usage.spotsOf t))
   else s.shownAt t := by
 classical
 have ht := hr.after hs c
 have uses : ∀ m, (s.after d c).survey.usage.Uses m t ↔
   ∃ x ∈ deeds d (visited rs (calls ++ [c])), x.method = m ∧ x.deed.thing? = some t := by
  intro m
  have kept := ht.kept
  rw [reached_eq free] at kept
  exact kept.uses_iff m t
 cases c with
 | next i => exact next_shownAt d i s t
 | method r => rfl
 | pkgs | things => exact usage_shownAt d s t
 | stringsOf m =>
  cases t with
  | field k =>
   rw [Deferred.after, stringsOf_eq hs free]
   exact usage_shownAt d s (.field k)
  | string k =>
   have hl := ht.kept.strings
   rw [Deferred.after, stringsOf_eq hs free] at uses hl ⊢
   refine (Shown.lookup_note_usedBy hl (s.usage d).2.strings m k).trans (if_congr ?_ ?_ ?_)
   · refine (uses m).trans ?_
     simp [Call.shows]
   · exact congrArg some (showing_congr (usage_shownAt d s (.string k)) _)
   · exact usage_shownAt d s (.string k)
 | fieldsOf m =>
  cases t with
  | string k =>
   rw [Deferred.after, fieldsOf_eq hs free]
   exact usage_shownAt d s (.string k)
  | field k =>
   have hl := ht.kept.fields
   rw [Deferred.after, fieldsOf_eq hs free] at uses hl ⊢
   refine (Shown.lookup_note_usedBy hl (s.usage d).2.fields m k).trans (if_congr ?_ ?_ ?_)
   · refine (uses m).trans ?_
     simp [Call.shows]
   · exact congrArg some (showing_congr (usage_shownAt d s (.field k)) _)
   · exact usage_shownAt d s (.field k)

end Tracks

lemma spots_ne_nil (hl : d.methods = .ok rs) (free : obstacle? d rs = none)
  (hf : firstShown? d rs t [] calls = some shown) (ht : shown <+: others) :
  (run d others).survey.usage.spotsOf t ≠ [] := by
 obtain ⟨-, ⟨x, hm, ha⟩, -⟩ := of_firstShown? hf
 obtain ⟨rest, rfl⟩ := ht
 have kept := (run_tracks hl (shown ++ rest)).kept
 rw [reached_eq free, visited_append] at kept
 have hr : x ∈ deeds d (visited rs shown ++ visitedFrom rs shown rest) := by
  rw [deeds_append]
  exact mem_append_left _ hm
 obtain ⟨a, -, spot⟩ := kept.mem_spotsOf hr ha
 exact ne_nil_of_mem spot

lemma run_shownAt (hl : d.methods = .ok rs) (free : obstacle? d rs = none) (calls : List Call) (t : Thing) :
  (run d calls).shownAt t = (firstShown? d rs t [] calls).map fun shown => (run d shown).survey.usage.spotsOf t := by
 induction calls using reverseRecOn with
 | nil => cases t <;> rfl
 | append_singleton calls c ih =>
  rw [run_concat, (run_tracks hl calls).after_shownAt hl free, firstShown?_concat, <- run_concat]
  split
  · cases hf : firstShown? d rs t [] calls with
    | none =>
     rw [hf] at ih
     rw [Option.none_or, showing_eq, ih]
     rfl
    | some shown =>
     rw [hf] at ih
     rw [Option.some_or, showing_eq, ih]
     exact congrArg some (if_neg (spots_ne_nil hl free hf prefix_rfl))
  · rw [Option.or_none, ih]

/-- The records of what is shown: calls and creations, and the places that fields and strings show. -/
def shows (s : Deferred) : List (Record String) :=
 s.survey.usage.recordsShown (fun f => s.fields.shows f.key f.places.flat) fun x => s.strings.shows x.text x.places.flat

/-- The calls that matter for what is shown of a deed. -/
def moment (d : File) (rs : List MRef) (deed : Deed String) (calls : List Call) : List Call :=
 (deed.thing?.bind (firstShown? d rs · [] calls)).getD calls

lemma Tracks.count_thing (ht : Tracks d rs calls s)
  (used : s.survey.usage.spotsOf t ≠ [] ∨ s.shownAt t = none) (y : Access × Nat × Nat) :
  s.shows.count ⟨y.2.2, y.2.1, t.deed y.1⟩ = (s.showing t (s.survey.usage.spotsOf t)).count y := by
 rw [shows, count_recordsShown ht.kept.fields.keys ht.kept.strings.keys]
 cases t <;> exact congrArg (count y) (Shown.elim_shows used)

lemma count_shows (hl : d.methods = .ok rs) (free : obstacle? d rs = none) (calls : List Call) (x : Record String) :
  (run d calls).shows.count x = (deeds d (visited rs (moment d rs x.deed calls))).count x := by
 have kept : ∀ calls, (run d calls).survey.usage.Kept (fun r => (d.methodAt r).idx) (entries d (visited rs calls)) := by
  intro calls
  have kept := (run_tracks hl calls).kept
  rwa [reached_eq free] at kept
 have ht : ∀ t (y : Access × Nat × Nat), (run d calls).shows.count ⟨y.2.2, y.2.1, t.deed y.1⟩ =
   (deeds d (visited rs ((firstShown? d rs t [] calls).getD calls))).count ⟨y.2.2, y.2.1, t.deed y.1⟩ := by
  intro t y
  have hs := run_shownAt hl free calls t
  rw [deeds, (kept _).count_deed t y]
  cases hf : firstShown? d rs t [] calls with
  | none =>
   rw [hf] at hs
   rw [(run_tracks hl calls).count_thing (.inr hs), showing_eq, hs]
   rfl
  | some early =>
   rw [hf] at hs
   have hb := (of_firstShown? hf).1
   rw [(run_tracks hl calls).count_thing (.inl (spots_ne_nil hl free hf hb)), showing_eq, hs]
   exact congrArg (count y) (if_neg (spots_ne_nil hl free hf prefix_rfl))
 have way : ∀ x, x.deed.thing? = none ->
   (run d calls).shows.count x = (deeds d (visited rs calls)).count x := by
  intro x ho
  have hc := count_recordsShown (kept calls).fields.keys (kept calls).strings.keys
  rw [deeds, <- (kept calls).recorded.count_eq, shows, hc]
  refine .trans ?_ (hc (·.places.flat) (·.places.flat) x).symm
  obtain ⟨m, off, deed⟩ := x
  cases deed with
  | access | text => cases ho
  | call | create => rfl
 obtain ⟨m, off, deed⟩ := x
 cases deed with
 | access k a => exact ht (.field k) (a, off, m)
 | text k a => exact ht (.string k) (a, off, m)
 | call | create => exact way _ rfl

/-! ## Agreement -/

lemma visited_untouched (rs : List MRef) (hu : ∀ c ∈ calls, c.touches = false) : visited rs calls = [] := by
 induction calls using reverseRecOn with
 | nil => rfl
 | append_singleton calls c ih =>
  obtain ⟨hb, here⟩ := forall_mem_append.mp hu
  rw [visited_concat, ih hb]
  cases c with
  | method r => rfl
  | _ => simp [Call.touches, Call.asks] at here

/-- Without iterations every method is visited once, when the tables are first asked for. -/
lemma visited_of_asks (rs : List MRef) (hl : ∀ i, .next i ∉ calls) (ha : ∃ c ∈ calls, c.asks = true) :
  visited rs calls = rs := by
 induction calls using reverseRecOn with
 | nil => simp at ha
 | append_singleton calls c ih =>
  have hs : ∀ i, .next i ∉ calls := fun i hi => hl i (mem_append_left _ hi)
  rw [visited_concat]
  by_cases he : ∃ c ∈ calls, c.asks = true
  · have ht : calls.any Call.touches = true := by
     obtain ⟨c, hi, asks⟩ := he
     refine any_eq_true.mpr ⟨c, hi, ?_⟩
     cases c with
     | next => rfl
     | _ => exact asks
    rw [ih hs he]
    cases c with
    | next i => exact absurd (mem_append_right calls (mem_singleton_self _)) (hl i)
    | method r => exact append_nil rs
    | _ =>
     rw [visitedBy_asks rfl, if_pos ht]
     exact append_nil rs
  · have hu : ∀ c ∈ calls, c.touches = false := by
     intro c hi
     cases c with
     | next i => exact absurd hi (hs i)
     | method r => rfl
     | _ => exact absurd ⟨_, hi, rfl⟩ he
    have here : c.asks = true := by
     obtain ⟨c', hi, asks⟩ := ha
     rcases mem_append.mp hi with hb | last
     · exact absurd ⟨c', hb, asks⟩ he
     · exact mem_singleton.mp last ▸ asks
    rw [visited_untouched rs hu, visitedBy_asks here, if_neg, nil_append]
    simpa using hu

lemma visited_moment (hs : ∀ i, .next i ∉ calls) (ha : ∃ c ∈ calls, c.asks = true) :
  visited rs (moment d rs deed calls) = rs := by
 rw [moment]
 cases hf : deed.thing?.bind fun t => firstShown? d rs t [] calls with
 | none => exact visited_of_asks rs hs ha
 | some shown =>
  obtain ⟨t, -, hf⟩ := Option.bind_eq_some_iff.mp hf
  obtain ⟨hb, -, ha⟩ := of_firstShown? hf
  exact visited_of_asks rs (fun i hi => hs i (hb.subset hi)) ha

lemma mem_visited (hm : r ∈ visited rs calls) : r ∈ rs := by
 induction calls using reverseRecOn with
 | nil => cases hm
 | append_singleton calls c ih =>
  rw [visited_concat] at hm
  rcases mem_append.mp hm with hb | here
  · exact ih hb
  · cases c with
    | next i => exact mem_of_getElem? (Option.mem_toList.mp here)
    | method r => cases here
    | _ =>
     rw [visitedBy_asks rfl] at here
     split at here
     · cases here
     · exact here

end Deferred

namespace Usage

variable {d : File} {rs : List MRef}

lemma method_of_deed (hm : x ∈ deeds d [r]) : x.method = (d.methodAt r).idx := by
 obtain ⟨y, hn, rfl⟩ := mem_map.mp hm
 obtain ⟨site, here, hr⟩ := mem_filterMap.mp hn
 obtain ⟨deed, -, rfl⟩ := Option.map_eq_some_iff.mp hr
 obtain ⟨r', hi, ht⟩ := mem_flatMap.mp here
 obtain ⟨p, -, rfl⟩ := mem_map.mp ht
 rw [mem_singleton.mp hi]
 rfl

lemma mem_deeds : x ∈ deeds d ss ↔ ∃ r ∈ ss, x ∈ deeds d [r] := by
 induction ss with
 | nil => simp [deeds, entries, sites]
 | cons r ss ih => rw [<- singleton_append, deeds_append, mem_append, ih, singleton_append, exists_mem_cons_iff]

lemma count_deeds (hd : (rs.map fun r => (d.methodAt r).idx).Nodup) (hl : r ∈ rs) (hb : x ∈ deeds d [r]) (hi : ∀ r ∈ ss, r ∈ rs) :
  (deeds d ss).count x = ss.count r * (deeds d [r]).count x := by
 induction ss with
 | nil => simp [deeds, entries, sites]
 | cons r' ss ih =>
  obtain ⟨hf, ho⟩ := forall_mem_cons.mp hi
  rw [<- singleton_append, deeds_append, count_append, ih ho, singleton_append, count_cons]
  by_cases same : r' = r
  · simp [same, add_mul, add_comm]
  · have ha : (deeds d [r']).count x = 0 := by
     refine count_eq_zero.mpr fun hm => same ?_
     exact inj_on_of_nodup_map hd hf hl ((method_of_deed hm).symm.trans (method_of_deed hb))
    simp [same, ha]

end Usage

namespace Deferred

open Survey Usage

variable {d : File} {rs : List MRef}

/-- The tables hold a record once for every visit of its method. They show what a full survey does if every method
    that does something was visited once by then; so it is without iterations. If there is no full survey, the first
    question fails, and later ones are answered from what the tables hold. -/
theorem shows_full_iff (listed : d.methods = .ok rs) (calls : List Call) :
  ((run d calls).survey.usage.records FieldUse.key).Perm (deeds d (visited (reached d rs) calls)) ∧
  (∀ v, full d = .ok v -> (∀ x, (run d calls).shows.count x = (deeds d (visited rs (moment d rs x.deed calls))).count x) ∧
   ((rs.map fun r => (d.methodAt r).idx).Nodup -> ((run d calls).shows.Perm (v.usage.records FieldUse.key) ↔
    ∀ r ∈ rs, ∀ x ∈ deeds d [r], (visited rs (moment d rs x.deed calls)).count r = 1)) ∧
   ((∀ i, .next i ∉ calls) -> (∃ c ∈ calls, c.asks = true) -> (run d calls).shows.Perm (v.usage.records FieldUse.key))) ∧
  ∀ e, full d = .error e -> ((run d calls).usage d).1 =
   if calls.any Call.touches then .ok (run d calls).survey.usage else .error e := by
 have ht := run_tracks listed calls
 refine ⟨ht.kept.recorded, fun v hs => ?_, fun e hl => ?_⟩
 · obtain ⟨free, -⟩ := full_ok listed hs
   have hc := count_shows listed free calls
   have hf : (v.usage.records FieldUse.key).Perm (deeds d rs) := (kept_of_full hs listed).recorded
   refine ⟨hc, fun hd => ?_, fun hst ha => ?_⟩
   · have hn := Nodup.of_map _ hd
     rw [perm_iff_count]
     simp only [hc, hf.count_eq]
     constructor
     · intro same r hi x hm
       have he := same x
       rw [count_deeds hd hi hm fun _ => mem_visited, count_deeds hd hi hm fun _ => id, count_eq_one_of_mem hn hi] at he
       exact Nat.eq_of_mul_eq_mul_right (count_pos_iff.mpr hm) he
     · intro once x
       by_cases made : x ∈ deeds d rs
       · obtain ⟨r, hi, hm⟩ := mem_deeds.mp made
         rw [count_deeds hd hi hm fun _ => mem_visited, count_deeds hd hi hm fun _ => id,
          count_eq_one_of_mem hn hi, once r hi x hm]
       · rw [count_eq_zero.mpr made, count_eq_zero]
         intro hh
         obtain ⟨r, hi, hm⟩ := mem_deeds.mp hh
         exact made (mem_deeds.mpr ⟨r, mem_visited hi, hm⟩)
   · refine (perm_iff_count.mpr fun x => ?_).trans hf.symm
     rw [hc, visited_moment hst ha]
 · rw [(ht.usage listed).1, (full_error_iff listed).mp hl]

/-! ## Specimens -/

/-- The texts and the classes of the specimen, asked for without iterations, are those of its full survey. -/
theorem creation_shown : ∃ d rs v, File.load false false (Flow.Specimen.blob 3) = .ok d ∧ d.methods = .ok rs ∧
  full d = .ok v ∧ (v.usage.records FieldUse.names).length = 3 ∧
  (run d [.stringsOf 0, .pkgs]).shows.Perm (v.usage.records FieldUse.key) := by
 obtain ⟨d, hd, rs, hl, v, hs, -, -, hr⟩ := creation_surveyed
 obtain ⟨-, ha, -⟩ := shows_full_iff hl [.stringsOf 0, .pkgs]
 exact ⟨d, rs, v, hd, hl, hs, hr, (ha v hs).2.2 (by simp) ⟨.pkgs, by simp, rfl⟩⟩

lemma specimens_asked : (∃ d, File.load false false (Flow.Specimen.blob 3) = .ok d ∧ ∃ v, full d = .ok v ∧
   (v.usage.records FieldUse.key).length = 3 ∧ (run d [.pkgs, .next 0]).shows.length = 6) ∧
  ∃ d, File.load false false (Flow.Specimen.blob 0) = .ok d ∧ (full d).isOk = false ∧
   ((run d [.pkgs]).usage d).1.isOk = true :=
 ⟨by decide +kernel, by decide +kernel⟩

/-- An iteration after the first question enters everything twice, and where a method has no flow, the second question
    is answered. -/
theorem tables_differ : (∃ d v, File.load false false (Flow.Specimen.blob 3) = .ok d ∧ full d = .ok v ∧
   ¬ (run d [.pkgs, .next 0]).shows.Perm (v.usage.records FieldUse.key)) ∧
  ∃ d, File.load false false (Flow.Specimen.blob 0) = .ok d ∧ (∀ v, full d ≠ .ok v) ∧
   ∃ u, ((run d [.pkgs]).usage d).1 = .ok u := by
 obtain ⟨⟨d, hd, v, hs, ht, six⟩, d', hl, hf, ha⟩ := specimens_asked
 refine ⟨⟨d, v, hd, hs, fun perm => ?_⟩, d', hl, fun v hs => ?_, ?_⟩
 · have := perm.length_eq
   omega
 · rw [hs] at hf
   cases hf
 · cases hk : ((run d' [.pkgs]).usage d').1 with
   | error e =>
    rw [hk] at ha
    cases ha
   | ok u => exact ⟨u, rfl⟩

end Deferred

end DexLens.Analysis
