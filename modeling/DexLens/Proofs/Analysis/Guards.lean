import DexLens.Proofs.Analysis.Partition

/-! # Guarded ranges

A block takes the first guarded range that lies in it or that it lies in. Ranges start blocks, but a block may go on
after the end of a range.
-/

namespace DexLens.Analysis.Flow

open Code Dex Specimen List

variable {d : File} {c : CodeItem} {flow : Flow} {b : Block} {g : Guard} {t : TryItem}

/-! ## Handlers -/

/-- Every guarded range is listed once, the handler for all exceptions before those for types. Unless a type has the
    name that stands for all, this is the order of testing exactly if no range has both kinds. -/
theorem guards_listed {d : File} {c : CodeItem} (counted : c.tries.length = c.triesSize)
  (handled : ∀ t ∈ c.tries, (handlersOf? c t).isSome = true) (typed : Typed d c) : ∃ gs, guardsOf d c = .ok gs ∧
   gs.Perm (c.tries.map fun t => ranged t ((handlersOf? c t).elim [] fun h => everyOf h ++ typedOf d h)) ∧
   ((∀ t ∈ c.tries, ∀ h ∈ handlersOf? c t, ∀ x ∈ h.typed, d.type x.1 ≠ .ok "any") ->
    (gs.Perm (c.tries.map fun t => ranged t ((handlersOf? c t).elim [] fun h => typedOf d h ++ everyOf h)) ↔
     ∀ t ∈ c.tries, ∀ h ∈ handlersOf? c t, h.typed = [] ∨ h.catchAll = none)) := by
 obtain ⟨gs, ends, hp⟩ := guardsOf_perm handled typed
 refine ⟨gs, ends, hp counted, fun hn => ⟨fun hl t hm h hf => ?_, fun ho => ?_⟩⟩
 · by_contra hb
   obtain ⟨hy, ha⟩ := not_or.mp hb
   obtain ⟨a, ha⟩ := Option.ne_none_iff_exists'.mp ha
   obtain ⟨x, xs, hy⟩ := exists_cons_of_ne_nil hy
   obtain ⟨t', hm', same⟩ := mem_map.mp (hl.mem_iff.mp ((hp counted).mem_iff.mpr (mem_map_of_mem hm)))
   have hk := congrArg Guard.handlers same
   rw [entryOf, hf] at hk
   -- The list starts with the handler for all and goes on, so it does not end with one.
   cases hf' : handlersOf? c t' with
   | none => simp [ranged, hf', everyOf, ha] at hk
   | some h' =>
    cases hy' : h'.typed with
    | nil => cases he : h'.catchAll <;> simp [ranged, hf', everyOf, ha, typedOf, hy, hy', he] at hk
    | cons y ys =>
     have name : (d.type y.1).toOption.getD "" = "any" := by
      simp [ranged, hf', everyOf, ha, typedOf, hy'] at hk
      exact hk.1.1
     refine hn t' hm' h' hf' y (by simp [hy']) ?_
     cases hd : d.type y.1 with
     | error cause => simp [hd, Except.toOption] at name
     | ok s => simpa [hd, Except.toOption] using name
 · refine (hp counted).trans (.of_eq (map_congr_left fun t hm => ?_))
   cases hf : handlersOf? c t with
   | none => rw [entryOf, hf]; rfl
   | some h =>
    rw [entryOf, hf]
    rcases ho t hm h hf with he | he
    · simp [typedOf, he]
    · simp [everyOf, he]

/-- Code with one guarded range, which has a handler for a type and one for all exceptions. -/
def caught : CodeItem :=
 { (default : CodeItem) with
   triesSize := 1
   tries := [⟨0, 1, 1⟩]
   handlers := some ⟨0, [⟨1, -1, [(0, 1)], some 2⟩]⟩ }

lemma caught_typed : ∃ d, File.load false false (blob 3) = .ok d ∧ Typed d caught ∧
  (d.type 0).toOption = some "LA;" ∧ ∃ gs, guardsOf d caught = .ok gs ∧
   (gs.map (·.handlers.map (·.name))) = [["any", "LA;"]] := by decide +kernel

/-- Its range has two bytes. -/
theorem caught_listed : ∃ d gs, File.load false false (blob 3) = .ok d ∧ guardsOf d caught = .ok gs ∧
  gs.Perm [⟨0, 1, [⟨"any", 4, none⟩, ⟨"LA;", 2, none⟩]⟩] := by
 obtain ⟨d, hl, ht, hn, -⟩ := caught_typed
 obtain ⟨gs, hg, hp, -⟩ := guards_listed (c := caught) rfl (by decide) ht
 exact ⟨d, gs, hl, hg, by simpa [caught, handlersOf?, ranged, everyOf, typedOf, hn] using hp⟩

/-- All exceptions come before the type. -/
theorem catch_all_first : ∃ d gs, File.load false false (blob 3) = .ok d ∧ guardsOf d caught = .ok gs ∧
  (gs.map fun g => g.handlers.map (·.name)) = [["any", "LA;"]] := by
 obtain ⟨d, hl, -, -, gs, hg, names⟩ := caught_typed
 exact ⟨d, gs, hl, hg, names⟩

/-! ## Ranges and blocks -/

/-- Some instruction of the block starts in a guarded range. -/
def Covered (c : CodeItem) (b : Block) : Prop :=
 ∃ t ∈ c.tries, ∃ p ∈ b.code (located 0 c.instrs), 2 * t.start ≤ p.1 ∧ p.1 < 2 * (t.start + t.count)

instance (c : CodeItem) (b : Block) : Decidable (Covered c b) :=
 inferInstanceAs (Decidable (∃ t ∈ c.tries, ∃ p ∈ b.code (located 0 c.instrs), _ ∧ _))

/-- A range and a block have a byte in common. -/
def Overlaps (g : Guard) (b : Block) : Prop := ∃ off : Int, g.start ≤ off ∧ off ≤ g.stop ∧ b.start ≤ off ∧ off < b.stop

/-- The range that a block is guarded by. -/
def guardian (flow : Flow) (b : Block) : Option Guard := b.guard.bind (flow.guards[·]?)

/-- The range is that of the item. -/
def Spans (t : TryItem) (g : Guard) : Prop := g.start = 2 * t.start ∧ g.stop = 2 * (t.start + t.count : Nat) - 1

def Nested (g : Guard) (b : Block) : Prop :=
 (b.start : Int) ≤ g.start ∧ g.stop < b.stop ∨ g.start ≤ b.start ∧ (b.stop : Int) ≤ g.stop + 1

lemma guardian_nested (hb : b.guard = guardFor? flow.guards b.start ((b.stop : Int) - 1)) :
  (∀ g, guardian flow b = some g -> g ∈ flow.guards ∧ Nested g b) ∧
   ∀ g ∈ flow.guards, Nested g b -> ∃ g, guardian flow b = some g := by
 have hn : ∀ g : Guard, ((g.start ≥ b.start && g.stop ≤ b.stop - 1) ||
   (b.stop - 1 ≤ g.stop && b.start ≥ g.start)) = true ↔ Nested g b := by
  intro g
  simp only [Bool.or_eq_true, Bool.and_eq_true, decide_eq_true_eq, Nested]
  omega
 unfold guardian
 rw [hb]
 constructor
 · intro g hg
   obtain ⟨i, hi, hg⟩ := Option.bind_eq_some_iff.mp hg
   obtain ⟨hl, hw, -⟩ := Array.findIdx?_eq_some_iff_getElem.mp hi
   obtain rfl : flow.guards[i] = g := by simpa [hl] using hg
   exact ⟨Array.getElem_mem hl, (hn _).mp hw⟩
 · intro g hm hw
   have some_nested : (guardFor? flow.guards b.start (b.stop - 1)).isSome = true := by
    rw [guardFor?, Array.findIdx?_isSome, Array.any_eq_true']
    exact ⟨g, hm, (hn g).mpr hw⟩
   obtain ⟨i, hi⟩ := Option.isSome_iff_exists.mp some_nested
   obtain ⟨hl, -⟩ := Array.findIdx?_eq_some_iff_getElem.mp hi
   exact ⟨flow.guards[i], by rw [hi]; simp [hl]⟩

lemma overlaps_of_nested (hw : Nested g b) (hg : g.start ≤ g.stop) (hb : b.start < b.stop) : Overlaps g b := by
 rcases hw with hw | hw
 · exact ⟨g.start, by omega⟩
 · exact ⟨b.start, by omega⟩

lemma guards_span (read : c.Read odex) (ends : guardsOf d c = .ok gs)
  (same : flow.guards.toList.map (fun g => (g.start, g.stop)) = gs.map (fun g => (g.start, g.stop))) :
  (∀ g ∈ flow.guards, ∃ t ∈ c.tries, Spans t g) ∧ ∀ t ∈ c.tries, ∃ g ∈ flow.guards, Spans t g := by
 have hp := (guardsOf_ok read ends).2.map (fun g => (g.start, g.stop))
 rw [<- same, map_map] at hp
 constructor
 · intro g hm
   obtain ⟨t, ht, he⟩ := mem_map.mp (hp.mem_iff.mp (mem_map_of_mem (Array.mem_toList_iff.mpr hm)))
   exact ⟨t, ht, (congrArg Prod.fst he).symm, (congrArg Prod.snd he).symm⟩
 · intro t ht
   obtain ⟨g, hm, he⟩ := mem_map.mp (hp.mem_iff.mpr (mem_map_of_mem ht))
   exact ⟨g, Array.mem_toList_iff.mp hm, congrArg Prod.fst he, congrArg Prod.snd he⟩

/-- All blocks with an instruction in a range are guarded exactly if each of them starts with a range or lies in one:
    a range that ends in a later block does not reach it. -/
theorem guards_reach_iff {odex recode : Bool} {blob : Bytes} {d : File} (loaded : File.load odex recode blob = .ok d)
  {r : MRef} {c : CodeItem} (known : d.codeOf? r = some c) {flow : Flow} (built : ofMethod d r = .ok flow)
  (placed : ∀ t ∈ c.tries, 0 < t.count ∧ ∃ p ∈ located 0 c.instrs, p.1 = 2 * t.start) :
  (∀ b ∈ flow.blocks, ∀ g, guardian flow b = some g -> (∃ t ∈ c.tries, Spans t g) ∧ Overlaps g b) ∧
   ((∀ b ∈ flow.blocks, Covered c b -> ∃ g, guardian flow b = some g ∧ Overlaps g b) ↔
    ∀ b ∈ flow.blocks, Covered c b -> ∃ t ∈ c.tries,
     b.start = 2 * t.start ∨ 2 * t.start ≤ b.start ∧ b.stop ≤ 2 * (t.start + t.count)) := by
 obtain ⟨read, dsts, ends, bs, hd, rfl, gs, hg, hs, same, guard⟩ := ofMethod_divides loaded known built
 obtain ⟨items, spans⟩ := guards_span read hg same
 have bare_mem : ∀ {b}, b ∈ flow.blocks -> bare b ∈ flow.blocks.toList.map bare := fun hm =>
  mem_map_of_mem (Array.mem_toList_iff.mpr hm)
 have long : ∀ {b}, b ∈ flow.blocks -> b.start < b.stop := by
  intro b hm
  obtain ⟨i, at_i⟩ := getElem?_of_mem (bare_mem hm)
  exact (hd.tiles.le_start at_i).2
 have meets : ∀ b ∈ flow.blocks, ∀ g, guardian flow b = some g -> (∃ t ∈ c.tries, Spans t g) ∧ Overlaps g b := by
  intro b hm g hb
  obtain ⟨hi, hw⟩ := (guardian_nested (guard b hm)).1 g hb
  obtain ⟨t, ht, start, stop⟩ := items g hi
  have := (placed t ht).1
  exact ⟨⟨t, ht, start, stop⟩, overlaps_of_nested hw (by omega) (long hm)⟩
 refine ⟨meets, ⟨fun ha b hm hc => ?_, fun ha b hm hc => ?_⟩⟩
 · obtain ⟨g, hb, -⟩ := ha b hm hc
   obtain ⟨hi, hw⟩ := (guardian_nested (guard b hm)).1 g hb
   obtain ⟨t, ht, start, stop⟩ := items g hi
   refine ⟨t, ht, ?_⟩
   rcases hw with ⟨hl, hu⟩ | ⟨hl, hu⟩
   · -- The range starts in the block, at an instruction that starts one.
     obtain ⟨hz, p, hp, at_p⟩ := placed t ht
     have hi : p ∈ b.code (located 0 c.instrs) := mem_filter.mpr ⟨hp, by simp; omega⟩
     have hn : (p.1 : Int) ∈ dsts := by
      have := hs _ ((guardsOf_ok read hg).2.mem_iff.mpr (mem_map_of_mem ht))
      rwa [at_p]
     exact .inl (((hd.filled _ (bare_mem hm)).laid.start_of_whole (hd.whole _ (bare_mem hm)).2 hi hn).trans at_p)
   · omega
 · obtain ⟨t, ht, hl⟩ := ha b hm hc
   obtain ⟨g, hi, start, stop⟩ := spans t ht
   have hw : Nested g b := by
    unfold Nested
    omega
   obtain ⟨g', hb⟩ := (guardian_nested (guard b hm)).2 g hi hw
   exact ⟨g', hb, (meets b hm g' hb).2⟩

/-- The specimen with a guarded range that ends in the block of the object's creation. -/
def moved : Bytes := ((blob 3).set 260 6).set 264 9

lemma moved_built : ∃ d, File.load false false moved = .ok d ∧ ∃ c ∈ d.codeOf? method,
  (∀ t ∈ c.tries, 0 < t.count ∧ ∃ p ∈ located 0 c.instrs, p.1 = 2 * t.start) ∧
  ∃ flow, ofMethod d method = .ok flow ∧ ∃ b ∈ flow.blocks.toList, Covered c b ∧ b.guard = none := by decide +kernel

/-- Where a range guards a block of this specimen, they overlap. -/
theorem moved_overlaps : ∃ d flow, File.load false false moved = .ok d ∧ ofMethod d method = .ok flow ∧
  ∀ b ∈ flow.blocks, ∀ g, guardian flow b = some g -> Overlaps g b := by
 obtain ⟨d, hl, c, hk, hp, flow, hb, -⟩ := moved_built
 exact ⟨d, flow, hl, hb, fun b hm g hg => ((guards_reach_iff hl hk hb hp).1 b hm g hg).2⟩

/-- A block has an instruction in the range, but no guard. -/
theorem covered_unguarded : ∃ d c flow, File.load false false moved = .ok d ∧ d.codeOf? method = some c ∧
  ofMethod d method = .ok flow ∧ ∃ b ∈ flow.blocks, Covered c b ∧ guardian flow b = none := by
 obtain ⟨d, hl, c, hk, -, flow, hb, b, hm, hc, hn⟩ := moved_built
 exact ⟨d, c, flow, hl, hk, hb, b, Array.mem_toList_iff.mp hm, hc, by rw [guardian, hn]; rfl⟩

end DexLens.Analysis.Flow
