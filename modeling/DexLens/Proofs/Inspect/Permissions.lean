import DexLens.Proofs.Analysis.Ledger
import DexLens.Proofs.CallGraph.Gathering

/-! # Permissions that are needed

Calls are gathered under the permissions they need, and so are the accesses of fields. Where both need one, the
accesses replace the calls.
-/

namespace DexLens.Inspect

open Analysis Dex Effect List Usage View

variable {α β : Type} {cs fs : List (String × List α)}

/-! ## Gathering -/

lemma gather_concat (xs : List (String × List α)) (x) : gather (xs ++ [x]) = upsert (gather xs) x.1 (· ++ x.2) x.2 := by
 rw [gather, foldl_append]
 rfl

lemma gather_nodup (xs : List (String × List α)) : ((gather xs).map (·.1)).Nodup := by
 induction xs using reverseRecOn with
 | nil => exact .nil
 | append_singleton xs x ih =>
  rw [gather_concat, upsert_eq]
  exact Lookup.nodup_amend ih (fun _ => id) rfl

section

variable (perm? : β -> Option String) (counts : String -> Bool) (items : β -> List α) (xs : List β)

/-- The items of things under the permissions that they need and that count. -/
def filed : List (String × List α) := xs.filterMap fun x => ((perm? x).filter counts).map (·, items x)

lemma lookup_filed (k : String) : (gather (filed perm? counts items xs)).lookup k = if counts k ∧ xs.filter (perm? · = some k) ≠ [] then
   some ((xs.filter (perm? · = some k)).flatMap items) else none := by
 induction xs using reverseRecOn with
 | nil => simp [filed, gather]
 | append_singleton xs x ih =>
  have more : filed perm? counts items (xs ++ [x]) =
    filed perm? counts items xs ++ (((perm? x).filter counts).map (·, items x)).toList := by
   rw [filed, filterMap_append]
   cases hk : (perm? x).filter counts <;> simp [filed, hk]
  rw [more]
  by_cases own : perm? x = some k
  · by_cases hc : counts k = true
    · simp only [own, Option.filter, hc, if_true, Option.map_some, Option.toList_some, gather_concat, lookup_upsert, ih]
      by_cases none : xs.filter (perm? · = some k) = [] <;> simp [filter_append, own, none]
    · simp [own, Option.filter, hc, ih]
  · cases new : (perm? x).filter counts with
    | none => simp [ih, filter_append, own]
    | some l =>
     have other : k ≠ l := fun same => own (same ▸ (Option.filter_eq_some_iff.mp new).1)
     simp [gather_concat, lookup_upsert, other, ih, filter_append, own]

end

/-- Some entries replace others. -/
def replaced (cs fs : List (String × List α)) : List (String × List α) :=
 fs.foldl (fun acc e => upsert acc e.1 (fun _ => e.2) e.2) cs

lemma lookup_replaced (hn : (fs.map (·.1)).Nodup) (k : String) :
  (replaced cs fs).lookup k = (fs.lookup k).or (cs.lookup k) := by
 unfold replaced
 induction fs generalizing cs with
 | nil => rfl
 | cons e fs ih =>
  obtain ⟨new, hn⟩ := nodup_cons.mp hn
  rw [foldl_cons, ih hn, lookup_upsert]
  by_cases own : k = e.1
  · rw [if_pos own, own, Lookup.eq_none_of_not_mem new, lookup_cons_self]
    cases cs.lookup e.1 <;> rfl
  · rw [if_neg own, Lookup.cons_of_ne own]

lemma replaced_nodup (hn : (cs.map (·.1)).Nodup) : ((replaced cs fs).map (·.1)).Nodup := by
 refine foldlRecOn (motive := fun t : List (String × List α) => (t.map (·.1)).Nodup) _ _ hn fun t hn e _ => ?_
 exact Lookup.nodup_amend hn (fun _ => id) rfl

/-! ## What is needed -/

/-- The permission of a field. -/
def fieldPermission? (rules : Rules) (f : FieldUse) : Option String := rules.lookup (f.cls ++ "-" ++ f.name ++ "-" ++ f.type)

/-- The accesses of a field. -/
def accesses (f : FieldUse) : List Need := f.places.flat.map fun x => .field f x.1 x.2.1 x.2.2

namespace View

variable {w : View}

section

variable (w : View) (rules : Rules) (wanted : List String) (k : String)

/-- The calls that need a permission. -/
def callsNeeding : List Path := w.usage.paths.filter (w.permission? · = some k)

/-- The fields that need a permission, whether they are accessed or not. -/
def fieldsNeeding : List FieldUse := w.usage.fields.filter (fieldPermission? rules · = some k)

def byCalls : List (String × List Need) := gather (filed w.permission? (counts wanted) (fun p => [.call p]) w.usage.paths)

def byFields : List (String × List Need) :=
 gather (filed (fieldPermission? rules) (wanted.isEmpty || wanted.contains ·) accesses w.usage.fields)

lemma byCalls_eq : gather (w.usage.paths.map (w.neededFor wanted)).flatten = w.byCalls wanted := by
 rw [<- flatMap_def, byCalls, filed, filterMap_eq_flatMap_toList]
 refine congrArg gather (flatMap_congr fun p _ => ?_)
 cases hk : (w.permission? p).filter (counts wanted) <;> simp [neededFor, hk]

/-- A permission is found with the accesses of its fields, or with its calls if it has no fields. -/
lemma lookup_needed : (replaced (w.byCalls wanted) (w.byFields rules wanted)).lookup k =
   if (wanted = [] ∨ k ∈ wanted) ∧ w.fieldsNeeding rules k ≠ [] then some ((w.fieldsNeeding rules k).flatMap accesses)
   else if counts wanted k ∧ w.callsNeeding k ≠ [] then some ((w.callsNeeding k).map .call) else none := by
 have asked : ((wanted.isEmpty || wanted.contains k) = true) ↔ wanted = [] ∨ k ∈ wanted := by simp
 have one (ps : List Path) : ps.flatMap (fun p => [Need.call p]) = ps.map .call := flatMap_pure_eq_map _ _
 rw [byFields, lookup_replaced (gather_nodup _), byCalls, lookup_filed, lookup_filed]
 unfold fieldsNeeding callsNeeding
 simp only [asked, one]
 split <;> rfl

end

lemma counts_iff : counts wanted k = true ↔ (wanted = [] ∨ k ∈ wanted) ∧ (wanted = [] -> Permission.known k) := by
 cases wanted <;> simp [counts]

lemma perm_needed_iff (w : View) (rules : Rules) (asked : wanted = [] ∨ k ∈ wanted) :
  ((((replaced (w.byCalls wanted) (w.byFields rules wanted)).lookup k).getD []).Perm
    ((w.callsNeeding k).map .call ++ (w.fieldsNeeding rules k).flatMap accesses) ↔
   w.callsNeeding k = [] ∨ w.fieldsNeeding rules k = [] ∧ (wanted = [] -> Permission.known k)) := by
 simp only [lookup_needed, counts_iff]
 generalize w.callsNeeding k = calls
 cases w.fieldsNeeding rules k with
 | nil =>
  by_cases known : wanted = [] -> Permission.known k
  · cases calls <;> simp [asked, eq_true known]
  · cases calls <;> simp [asked, eq_false known]
 | cons f fields =>
  -- The accesses alone are as many as all that is needed only if there are no calls.
  rw [if_pos ⟨asked, cons_ne_nil _ _⟩]
  constructor
  · exact fun same => .inl (by simpa using same.length_eq)
  · rintro (rfl | ⟨none, -⟩)
    · exact .rfl
    · cases none

/-! ## Asking -/

/-- The tables of a file are filled, and the rules are known. -/
def Filled (n : Needs) (s : Inspection) : Prop := (∃ v, s.survey = some v ∧ v.resolved = true) ∧ s.needs = n

lemma neededByCalls_keeps (n : Needs) (wanted : List String) : Keeps (HandsOn (Filled n)) (neededByCalls wanted) := by
 have used : Keeps (HandsOn (Filled n)) Inspect.usage := by
  rintro s ⟨⟨v, hs, hr⟩, hn⟩
  rw [play_usage_known hs hr]
  exact ⟨⟨v, hs, hr⟩, hn⟩
 have known : Keeps (HandsOn (Filled n)) classNames := by
  refine Keeps.of_get.bind fun s => ?_
  cases s.classNames with
  | some ns => exact .of_pure ns
  | none => exact (look_keeps _).bind fun _ => (Keeps.of_modify fun _ => id).bind .of_pure
 refine Keeps.of_get.bind fun _ => used.bind fun _ => known.bind fun _ => (Keeps.of_mapM _ fun _ => ?_).bind .of_pure
 refine (names_keeps _).bind fun (_, _, _) => (names_keeps _).bind fun (_, _, _) => ?_
 dsimp only
 split
 · split <;> exact .of_pure _
 · exact .of_pure _

lemma play_needed (legible : w.Legible) (old : w.Shown s) (wanted : List String) :
  ∃ t, play (Inspect.needed wanted) s = (.ok (replaced (w.byCalls wanted) (w.byFields s.needs.fields wanted)), t) := by
 obtain ⟨t, ends, shown⟩ := answers_neededFor legible wanted s old
 obtain ⟨v, surveyed, resolved, -⟩ := old.survey
 have kept : t.needs = s.needs := ((neededByCalls_keeps _ wanted).of_play ends ⟨⟨v, surveyed, resolved⟩, rfl⟩).2
 obtain ⟨u, used, -⟩ := w.answers_usage t shown
 have fields : play (neededByFields wanted) t = (.ok (w.byFields s.needs.fields wanted), u) := by
  unfold neededByFields
  rw [play_ok (play_get t), play_ok used, kept]
  refine congrArg (fun xs => (Except.ok (gather xs), u)) (filterMap_congr fun f _ => ?_)
  unfold fieldPermission?
  cases s.needs.fields.lookup (f.cls ++ "-" ++ f.name ++ "-" ++ f.type) with
  | none => rfl
  | some k => by_cases hk : (wanted.isEmpty || wanted.contains k) = true <;> simp only [Option.filter, hk] <;> rfl
 refine ⟨u, (play_ok ends).trans ((play_ok fields).trans ?_)⟩
 rw [byCalls_eq]
 rfl

end View

/-- Every permission is found with just the calls and the accesses that need it, unless both calls and fields need it, or
    calls need one that the platform does not know and no permission was given. -/
theorem permissions_exact_iff {d : File} {cs : List ClassDef} (defined : d.classDefs = .ok cs) {v : Survey}
  (surveyed : Survey.full d = .ok v) (needs : Needs) (legible : (ofSurvey defined needs.calls v).Legible)
  (wanted : List String) :
  ∃ t u, play (survey >>= fun _ => needed wanted) (.start d needs false) = (.ok t, u) ∧ (t.map (·.1)).Nodup ∧ ∀ k,
   let calls := (ofSurvey defined needs.calls v).callsNeeding k
   let fields := (ofSurvey defined needs.calls v).fieldsNeeding needs.fields k
   if wanted = [] ∨ k ∈ wanted then
    (((t.lookup k).getD []).Perm (calls.map .call ++ fields.flatMap accesses) ↔
     calls = [] ∨ fields = [] ∧ (wanted = [] -> Permission.known k))
   else t.lookup k = none := by
 obtain ⟨u, ends⟩ := play_needed legible (shown_ofSurvey defined surveyed needs) wanted
 refine ⟨_, u, (play_ok (play_survey_ok surveyed needs)).trans ends, replaced_nodup (gather_nodup _), fun k => ?_⟩
 split
 · next asked => exact perm_needed_iff _ _ asked
 · next unasked =>
   rw [lookup_needed, if_neg fun h => unasked h.1, if_neg fun h => unasked (counts_iff.mp h.1).1]

/-- Creating an object by its class needs a permission here. -/
def sampleRules : Rules := [("Ljava/lang/Class;-newInstance-()V", "INTERNET")]

/-- The sample calls one method that needs a permission. -/
theorem sample_needed : ∃ d t u, File.load false false (CallGraph.Sample.blob 44) = .ok d ∧
  play (survey >>= fun _ => needed ["INTERNET"]) (.start d ⟨sampleRules, []⟩ false) = (.ok t, u) ∧
  ((t.lookup "INTERNET").getD []).length = 1 := by
 obtain ⟨d, loaded, cs, defined, v, surveyed, legible, one⟩ : ∃ d,
   File.load false false (CallGraph.Sample.blob 44) = .ok d ∧ ∃ cs, ∃ hd : d.classDefs = .ok cs, ∃ v,
   Survey.full d = .ok v ∧ (ofSurvey hd sampleRules v).Legible ∧
   ((ofSurvey hd sampleRules v).callsNeeding "INTERNET").length = 1 := by decide +kernel
 obtain ⟨t, u, ends, -, found⟩ := permissions_exact_iff defined surveyed ⟨sampleRules, []⟩ legible ["INTERNET"]
 have unneeded : (ofSurvey defined sampleRules v).fieldsNeeding [] "INTERNET" = [] :=
  filter_eq_nil_iff.mpr fun f _ => by simp [fieldPermission?]
 have found := found "INTERNET"
 rw [if_pos (.inr mem_cons_self), unneeded] at found
 exact ⟨d, t, u, loaded, ends, (found.mpr (.inr ⟨rfl, nofun⟩)).length_eq.trans (by simpa using one)⟩

end DexLens.Inspect
