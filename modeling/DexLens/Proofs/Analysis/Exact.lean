import DexLens.Proofs.Lookup
import DexLens.Proofs.Code.Plain
import DexLens.Proofs.Dex.CodeItems
import DexLens.Proofs.Analysis.Blocks

/-! # The flow of control between blocks

The blocks of a method start at all places that its code names, and their links are the ways that control can take
from one to another.
-/

namespace DexLens.Analysis.Flow

open Code Dex List Res

variable {all code : Located} {p : Nat × Instr} {ends : List (Nat × List Int)} {start : Nat}
 {bs : List Block} {b : Block} {l : Link} {dsts : List Int} {d : File} {hs : CatchHandlers} {t : TryItem}
 {c : CodeItem} {gs : List Guard} {title : String} {flow : Flow} {recode : Bool} {r : MRef}

/-! ## Where control can go -/

section

variable (all : Located) (p : Nat × Instr)

def place : Int := 2 * p.2.branch?.getD 0 + p.1

/-- The offsets that an instruction names, by itself or in its payload. -/
def places : List Int :=
 match p.2.exit with
 | .falls | .leaves => []
 | .jumps | .branches => [place p]
 | .selects => ((insAt? all (place p)).elim [] (·.dsts)).map (2 * · + p.1)

/-- The offsets where control may be after an instruction. -/
def follow : List Int :=
 match p.2.exit with
 | .leaves | .jumps => places all p
 | .falls | .branches | .selects => (p.1 + p.2.length : Int) :: places all p

def Paid : Prop := p.2.exit = .selects -> (insAt? all (place p)).any (·.isSwitchPayload) = true

instance (all : Located) (p : Nat × Instr) : Decidable (Paid all p) := inferInstanceAs (Decidable (_ -> _))

/-- If nothing follows an instruction that ends a block, an offset is noted that no block has. -/
def leaving : Option (Nat × List Int) :=
 match p.2.exit with
 | .falls => none
 | .leaves => some (p.1, [-1])
 | .jumps | .branches | .selects => some (p.1, follow all p)

end

lemma succs_eq (hn : p.2.Named) (paid : Paid all p)
  (ends : p.2.exit ≠ .falls) : (succs all p.1 p.2).map (fun ts => some (p.1, ts)) = .ok (leaving all p) := by
 have exit := hn.exit
 unfold Exit.ofOpcode at exit
 unfold succs leaving follow places
 split at exit
 · simp only [*, if_true]
   rfl
 · rw [if_neg ‹_›]
   split at exit
   · simp only [*, if_true]
     rfl
   · rw [if_neg ‹_›]
     split at exit
     · simp only [*, if_true]
       rfl
     · rw [if_neg ‹_›]
       split at exit
       · obtain ⟨data, hf, hi⟩ := (Option.any_eq_true ..).mp (paid exit)
         rw [place] at hf
         simp only [*, if_true, place]
         rfl
       · exact absurd exit ends

lemma branches_ok (hn : ∀ p ∈ all, p.2.Named) (paid : ∀ p ∈ all, Paid all p)
  (ht : ∀ p ∈ all, p.2.jumbo = false) : branches all all = .ok (all.filterMap (leaving all)) := by
 unfold branches
 rw [mapM_ok (g := leaving all)]
 · exact congrArg Except.ok (filterMap_map ..)
 · intro p hm
   obtain ⟨name, ho, hi⟩ := (hn p hm).name (ht p hm)
   change (p.2.name >>= fun name => if isBranchName name = true then
    succs all p.1 p.2 >>= fun ts => pure (some (p.1, ts)) else pure none) = _
   rw [ho]
   by_cases hf : p.2.exit = .falls
   · simp [bind, Except.bind, hi, hf, leaving]
     rfl
   · rw [<- succs_eq (hn p hm) (paid p hm) hf]
     simp [bind, Except.bind, hi, hf]
     rfl

lemma branches_named
  (he : branches all all = .ok ends) (hn : ∀ p ∈ all, p.2.Named) : ∀ p ∈ all, p.2.jumbo = false := by
 intro p hm
 obtain ⟨name, ho⟩ := name_of_branches he p hm
 refine Bool.eq_false_iff.mpr fun hi => ?_
 rw [(hn p hm).nameless hi] at ho
 cases ho

lemma leaving_key (hl : leaving all p = some x) : x.1 = p.1 := by
 unfold leaving at hl
 split at hl
 · cases hl
 all_goals
  cases hl
  rfl

lemma mem_keys_leaving (hm : p ∈ code) (ends : p.2.exit ≠ .falls) : p.1 ∈ (code.filterMap (leaving all)).map (·.1) := by
 have hn : ∃ x, leaving all p = some x := by
  unfold leaving
  split
  · exact absurd ‹_› ends
  all_goals exact ⟨_, rfl⟩
 obtain ⟨x, hl⟩ := hn
 exact mem_map.mpr ⟨x, mem_filterMap.mpr ⟨p, hm, hl⟩, leaving_key hl⟩

lemma places_noted (hm : p ∈ code) {t} (hn : t ∈ places all p) : t ∈ (code.filterMap (leaving all)).flatMap (·.2) := by
 have ht : leaving all p = some (p.1, follow all p) ∧ t ∈ follow all p := by
  unfold leaving follow
  cases exit : p.2.exit with
  | falls | leaves => simp [places, exit] at hn
  | jumps => exact ⟨rfl, hn⟩
  | branches | selects => exact ⟨rfl, mem_cons_of_mem _ hn⟩
 exact mem_flatMap.mpr ⟨_, mem_filterMap.mpr ⟨p, hm, ht.1⟩, ht.2⟩

lemma lookup_leaving (laid : Laid start code) (long : ∀ p ∈ code, 2 ≤ p.2.length) (hm : p ∈ code) :
  (code.filterMap (leaving all)).lookup p.1 = (leaving all p).map (·.2) := by
 have apart : (code.map (·.1)).Nodup := pairwise_map.mpr ((laid.pairwise fun p hi => two_pos.trans_le (long p hi)).imp Nat.ne_of_lt)
 exact Lookup.filterMap_of_key leaving_key (fun _ hf _ hs same => inj_on_of_nodup_map apart hf hs same ▸ rfl) hm

/-! ## Links -/

lemma nextOf_falls (ht : Tiles 2 0 stop bs) (memB : b ∈ bs) (hn : ends.lookup (b.stop - b.lastLength) = none) :
  l ∈ nextOf bs.toArray ends b ↔ l.first = (b.stop : Int) - b.lastLength ∧ l.second = b.stop ∧
   ∃ c, bs[l.block]? = some c ∧ (c.start : Int) = b.stop := by
 have hf : (∃ c, bs[l.block]? = some c ∧ (c.start : Int) = b.stop) ↔ blockAt? bs.toArray (b.stop + 1) = some l.block := by
  simp only [ht.blockAt?_after memB, Nat.cast_inj]
 rw [hf, nextOf, hn]
 cases ha : blockAt? bs.toArray (b.stop + 1) with
 | none => simp
 | some i =>
  obtain ⟨first, second, block⟩ := l
  simp [eq_comm]

section

variable (d : File) (h : CatchHandler) (c : CodeItem)

lemma nextOf_dsts (ht : Tiles 2 0 stop bs) (hso : ends.lookup (b.stop - b.lastLength) = some ts) (hn : ts ≠ [])
  (hc : ∀ t ∈ ts, ∀ c ∈ bs, ¬ ((c.start : Int) < t ∧ t < c.stop)) :
  l ∈ nextOf bs.toArray ends b ↔ l.first = (b.stop : Int) - b.lastLength ∧ l.second ∈ ts ∧
   ∃ c, bs[l.block]? = some c ∧ (c.start : Int) = l.second := by
 have hp : nextOf bs.toArray ends b = ts.filterMap fun t =>
   if t = -1 then none else (blockAt? bs.toArray t).map fun i => ⟨b.stop - b.lastLength, t, i⟩ := by
  rw [nextOf, hso]
  cases ts with
  | nil => exact absurd rfl hn
  | cons t ts => rfl
 rw [hp, mem_filterMap]
 constructor
 · rintro ⟨t, hm, hf⟩
   split at hf
   · cases hf
   · obtain ⟨i, at_t, rfl⟩ := Option.map_eq_some_iff.mp hf
     exact ⟨rfl, hm, (ht.blockAt?_dst (hc t hm)).mp at_t⟩
 · rintro ⟨hr, hm, c, at_l, start⟩
   refine ⟨l.second, hm, ?_⟩
   rw [if_neg (by omega), (ht.blockAt?_dst (hc _ hm)).mpr ⟨c, at_l, start⟩, <- hr]
   rfl

lemma mem_nextOf {keys} (hd : Divides 2 title dsts keys all bs) (laid : Laid 0 all) (long : ∀ p ∈ all, 2 ≤ p.2.length)
  (memB : b ∈ bs) {inner} (code : b.code all = inner ++ [p])
  (hl : ∀ t ∈ places all p, ∃ c ∈ bs, (c.start : Int) = t) :
  l ∈ nextOf bs.toArray (all.filterMap (leaving all)) b ↔ l.first = p.1 ∧ l.second ∈ follow all p ∧
   ∃ c, bs[l.block]? = some c ∧ (c.start : Int) = l.second := by
 have ht := hd.tiles
 obtain ⟨stop, hg, -⟩ := hd.last_at memB code
 have hm : p ∈ all := by
  have hin : p ∈ b.code all := by simp [code]
  exact mem_of_mem_filter hin
 have hr : (b.stop : Int) - b.lastLength = p.1 := by omega
 have hn : (all.filterMap (leaving all)).lookup (b.stop - b.lastLength) = (leaving all p).map (·.2) := by
  rw [show b.stop - b.lastLength = p.1 by omega]
  exact lookup_leaving laid long hm
 have hc : ∀ t ∈ follow all p, ∀ c ∈ bs, ¬ (c.start < t ∧ t < c.stop) := by
  intro t hf c memC
  have ha : t = b.stop ∨ t ∈ places all p := by
   unfold follow at hf
   split at hf
   all_goals simp_all
  rcases ha with rfl | hna
  · have := (ht.clear memB memC).2
    omega
  · obtain ⟨c', hme, rfl⟩ := hl t hna
    have := (ht.clear hme memC).1
    omega
 cases exit : p.2.exit with
 | falls =>
  rw [nextOf_falls ht memB (by rw [hn, leaving, exit]; rfl), hr]
  have : follow all p = [(b.stop : Int)] := by simp [follow, places, exit, stop]
  rw [this, mem_singleton]
  exact ⟨fun ⟨h₁, h₂, h₃⟩ => ⟨h₁, h₂, h₂ ▸ h₃⟩, fun ⟨h₁, h₂, h₃⟩ => ⟨h₁, h₂, h₂ ▸ h₃⟩⟩
 | leaves =>
  -- The one noted offset is below every block.
  have hno : (all.filterMap (leaving all)).lookup (b.stop - b.lastLength) = some [-1] := by
   rw [hn, leaving, exit]
   rfl
  have ho : ∀ t ∈ [(-1 : Int)], ∀ c ∈ bs, ¬ (c.start < t ∧ t < c.stop) := by
   intro t hi c _
   rw [mem_singleton] at hi
   omega
  rw [nextOf_dsts ht hno (cons_ne_nil _ _) ho]
  have hnn : follow all p = [] := by simp [follow, places, exit]
  simp only [hnn, not_mem_nil, false_and, and_false, iff_false, not_and]
  rintro - hi ⟨c, -, start⟩
  rw [mem_singleton] at hi
  omega
 | jumps | branches | selects =>
  have hno : (all.filterMap (leaving all)).lookup (b.stop - b.lastLength) = some (follow all p) := by
   rw [hn, leaving, exit]
   rfl
  rw [nextOf_dsts ht hno (by simp [follow, places, exit]) hc, hr]

/-! ## Guards -/

/-- The handlers of a guarded range. -/
def handlersOf? (t : TryItem) : Option CatchHandler :=
 c.handlers.bind fun hs => hs.entries.find? (·.offset = t.handlerOff + hs.offset)

def addresses : List Nat := h.catchAll.toList ++ h.typed.map (·.2)

/-- The offsets where guarded ranges and their handlers start. -/
def guardPlaces : List Int :=
 c.tries.flatMap fun t => (2 * t.start : Int) ::
  ((handlersOf? c t).elim [] addresses).map fun a : Nat => (2 * a : Int)

/-- The types of exceptions that are handled can be named. -/
def Typed : Prop := ∀ t ∈ c.tries, ∀ h ∈ handlersOf? c t, ∀ x ∈ h.typed, (d.type x.1).isOk = true

instance (d : File) (c : CodeItem) : Decidable (Typed d c) := inferInstanceAs (Decidable (∀ t ∈ c.tries, _))

/-- The handler for all exceptions, if there is one. -/
def everyOf : List Handler :=
 match h.catchAll with
 | some a => [⟨"any", 2 * a, none⟩]
 | none => []

/-- The handlers for types of exceptions, in the order of the file. -/
def typedOf : List Handler := h.typed.map fun x => ⟨(d.type x.1).toOption.getD "", 2 * x.2, none⟩

/-- A guarded range in bytes, with its handlers. -/
def ranged (t : TryItem) (ks : List Handler) : Guard := ⟨2 * t.start, 2 * (t.start + t.count : Nat) - 1, ks⟩

/-- What is listed of a guarded range: the handler for all exceptions comes first. -/
def entryOf (t : TryItem) : Guard := ranged t ((handlersOf? c t).elim [] fun h => everyOf h ++ typedOf d h)

end

lemma guardAt_ok : guardAt d hs off t = .ok g ↔ ∃ h, (hs.entries.find? (·.offset = off)) = some h ∧
  (∀ x ∈ h.typed, (d.type x.1).isOk = true) ∧ g = ranged t (everyOf h ++ typedOf d h) := by
 have hn : ∀ h : CatchHandler, (∀ x ∈ h.typed, (d.type x.1).isOk = true) ->
   h.typed.mapM (fun x => do return (⟨<- d.type x.1, 2 * x.2, none⟩ : Handler)) = .ok (typedOf d h) := by
  refine fun h ht => mapM_ok fun x hm => ?_
  obtain ⟨name, ho⟩ := exists_of_isOk (ht x hm)
  rw [ho]
  rfl
 unfold guardAt
 cases hf : hs.entries.find? fun h => h.offset = off with
 | none => exact ⟨nofun, nofun⟩
 | some h =>
  constructor
  · intro ends
    obtain ⟨_, ⟨⟩, ends⟩ := bind_ok ends
    obtain ⟨ks, hk, ends⟩ := bind_ok ends
    have ht : ∀ x ∈ h.typed, (d.type x.1).isOk = true := by
     intro x hm
     obtain ⟨_, -, own⟩ := mapM_mem hk x hm
     obtain ⟨name, ho, -⟩ := bind_ok own
     rw [ho]
     rfl
    cases hk.symm.trans (hn h ht)
    exact ⟨h, rfl, ht, (Except.ok.inj ends).symm⟩
  · rintro ⟨_, ⟨⟩, ht, rfl⟩
    exact bind_of_ok (hn h ht) _

lemma perm_of_keys [DecidableEq κ] (key : α -> κ) (ks : List κ) (xs : List α) (hk : ∀ x ∈ xs, key x ∈ ks) :
  (ks.eraseDups.flatMap fun k => xs.filter (key · = k)).Perm xs := by
 match ks with
 | [] =>
  obtain rfl : xs = [] := eq_nil_iff_forall_not_mem.mpr (nomatch hk · ·)
  exact .nil
 | k :: ks =>
  -- The things of the first key are apart from all others.
  have ht : ∀ k' ∈ (ks.filter (!· == k)).eraseDups,
    xs.filter (key · = k') = (xs.filter fun x => !decide (key x = k)).filter (key · = k') := by
   intro k' hm
   obtain ⟨-, hn⟩ := mem_filter.mp (mem_eraseDups.mp hm)
   rw [filter_filter]
   refine filter_congr fun x _ => ?_
   by_cases here : key x = k'
   · simpa [here] using hn
   · simp [here]
  have hr := perm_of_keys key (ks.filter (!· == k)) (xs.filter fun x => !decide (key x = k)) (by
   intro x hm
   obtain ⟨hi, hn⟩ := mem_filter.mp hm
   rcases mem_cons.mp (hk x hi) with here | hl
   · simp [here] at hn
   · exact mem_filter.mpr ⟨hl, by simpa using hn⟩)
  rw [eraseDups_cons, flatMap_cons, flatMap_congr ht]
  exact (hr.append_left _).trans (filter_append_perm _ xs)
termination_by ks.length
decreasing_by exact Nat.lt_succ_of_le (length_filter_le ..)

lemma guardsOf_mem (ends : guardsOf d c = .ok gs) (hg : c.handlers = some hs) (hso : c.triesSize ≠ 0) :
  ∀ t ∈ c.tries, ∃ g ∈ gs, guardAt d hs (t.handlerOff + hs.offset) t = .ok g := by
 intro t hm
 unfold guardsOf at ends
 rw [hg] at ends
 simp only [hso, if_false] at ends
 obtain ⟨lists, each, ends⟩ := bind_ok ends
 cases ends
 obtain ⟨gs, hi, each⟩ := mapM_mem each (t.handlerOff + hs.offset)
  (mem_eraseDups.mpr (mem_map_of_mem hm))
 obtain ⟨g, memG, own⟩ := mapM_mem each t (mem_filter.mpr ⟨hm, by simp⟩)
 exact ⟨g, mem_flatten_of_mem hi memG, own⟩

lemma handlers_of_tries (read : c.Read odex) (hb : t ∈ c.tries) : c.triesSize ≠ 0 ∧ ∃ hs, c.handlers = some hs := by
 have hm : c.triesSize ≠ 0 := by
  rw [<- read.tries]
  exact (length_pos_of_mem hb).ne'
 exact ⟨hm, Option.isSome_iff_exists.mp (read.handlers hm)⟩

lemma guardsOf_perm (hh : ∀ t ∈ c.tries, (handlersOf? c t).isSome = true) (ht : Typed d c) :
  ∃ gs, guardsOf d c = .ok gs ∧ (c.tries.length = c.triesSize -> gs.Perm (c.tries.map (entryOf d c))) := by
 unfold guardsOf
 cases hg : c.handlers with
 | none =>
  obtain he : c.tries = [] := eq_nil_iff_forall_not_mem.mpr fun t hm => by simpa [handlersOf?, hg] using hh t hm
  exact ⟨[], rfl, fun _ => by rw [he]; rfl⟩
 | some hs =>
  by_cases hno : c.triesSize = 0
  · refine ⟨[], by simp only [hno, if_true]; rfl, fun hn => ?_⟩
    rw [length_eq_zero_iff.mp (hn.trans hno)]
    rfl
  have each : ∀ off, (c.tries.filter (·.handlerOff + hs.offset = off)).mapM (guardAt d hs off) =
    .ok ((c.tries.filter (·.handlerOff + hs.offset = off)).map (entryOf d c)) := by
   refine fun off => mapM_ok fun t hi => ?_
   obtain ⟨hm, here⟩ := mem_filter.mp hi
   obtain rfl : t.handlerOff + hs.offset = off := by simpa using here
   obtain ⟨h, hf⟩ := Option.isSome_iff_exists.mp (hh t hm)
   refine guardAt_ok.mpr ⟨h, ?_, ht t hm h hf, by rw [entryOf, hf]; rfl⟩
   rwa [handlersOf?, hg] at hf
  simp only [hno, if_false]
  refine ⟨_, bind_of_ok (mapM_ok fun off _ => each off) _, fun _ => ?_⟩
  rw [<- flatMap_def, <- map_flatMap]
  exact (perm_of_keys _ _ _ fun t hm => mem_map_of_mem hm).map _

lemma guardsOf_ok (read : c.Read odex) (ends : guardsOf d c = .ok gs) : Typed d c ∧ gs.Perm (c.tries.map (entryOf d c)) := by
 have each : ∀ t ∈ c.tries, ∃ h, handlersOf? c t = some h ∧ ∀ x ∈ h.typed, (d.type x.1).isOk = true := by
  intro t hm
  obtain ⟨hso, hs, hg⟩ := handlers_of_tries read hm
  obtain ⟨g, -, own⟩ := guardsOf_mem ends hg hso t hm
  obtain ⟨h, hf, hy, -⟩ := guardAt_ok.mp own
  exact ⟨h, by rw [handlersOf?, hg]; exact hf, hy⟩
 have hy : Typed d c := by
  intro t hm h hf
  obtain ⟨h', hd, hy⟩ := each t hm
  rw [hd] at hf
  cases hf
  exact hy
 obtain ⟨gs', ends', hp⟩ := guardsOf_perm
  (fun t hm => Option.isSome_iff_exists.mpr ((each t hm).imp fun _ => And.left)) hy
 cases ends.symm.trans ends'
 exact ⟨hy, hp read.tries⟩

section

variable (bs : List Block) (ends : List (Nat × List Int))

lemma guardPlaces_eq (d : File) (c : CodeItem) : guardPlaces c =
  (c.tries.map (entryOf d c)).flatMap fun g => g.start :: g.handlers.map fun h => (h.addr : Int) := by
 rw [flatMap_map]
 refine flatMap_congr fun t _ => congrArg _ ?_
 unfold entryOf
 cases handlersOf? c t with
 | none => rfl
 | some h =>
  obtain ⟨_, _, _, catchAll⟩ := h
  cases catchAll <;> simp [addresses, everyOf, ranged, typedOf, Function.comp_def]

/-! ## Exact flow -/

/-- The offsets that code and its guards name. -/
def targetsOf (c : CodeItem) : List Int :=
 (located 0 c.instrs).flatMap (places (located 0 c.instrs)) ++ guardPlaces c

/-- The code decodes fully, its switches refer to payloads of switches, and every place it names is an
    instruction. -/
structure Sound (c : CodeItem) : Prop where
 resolved : ∀ ins ∈ c.instrs, ins.isResolved = true
 paid : ∀ p ∈ located 0 c.instrs, Paid (located 0 c.instrs) p
 handled : ∀ t ∈ c.tries, (handlersOf? c t).isSome = true
 boundaries : ∀ t ∈ targetsOf c, ∃ p ∈ located 0 c.instrs, (p.1 : Int) = t

instance (c : CodeItem) : Decidable (Sound c) :=
 decidable_of_iff ((∀ ins ∈ c.instrs, ins.isResolved = true) ∧
   (∀ p ∈ located 0 c.instrs, Paid (located 0 c.instrs) p) ∧
   (∀ t ∈ c.tries, (handlersOf? c t).isSome = true) ∧
   ∀ t ∈ targetsOf c, ∃ p ∈ located 0 c.instrs, (p.1 : Int) = t)
  ⟨fun ⟨resolved, paid, handled, boundaries⟩ => ⟨resolved, paid, handled, boundaries⟩,
   fun ⟨resolved, paid, handled, boundaries⟩ => ⟨resolved, paid, handled, boundaries⟩⟩

/-- Control enters blocks at their start and leaves them at their end, and their links are the ways that control can
    take. -/
structure Exact (all : Located) (named : List Int) (flow : Flow) : Prop where
 code : flow.blocks.toList.flatMap (·.code all) = all
 start : ∀ b ∈ flow.blocks, (b.code all).head?.map (·.1) = some b.start
 inner : ∀ b ∈ flow.blocks, ∀ inner p, b.code all = inner ++ [p] -> ∀ q ∈ inner, q.2.exit = .falls
 dsts : ∀ t ∈ named, ∃ b ∈ flow.blocks, (b.start : Int) = t
 next : ∀ b ∈ flow.blocks, ∀ inner p, b.code all = inner ++ [p] -> ∀ l, l ∈ b.next ↔
  l.first = p.1 ∧ l.second ∈ follow all p ∧ ∃ c : Block, flow.blocks[l.block]? = some c ∧ (c.start : Int) = l.second
 prev : ∀ (j : Nat) (c : Block), flow.blocks[j]? = some c -> ∀ x y i, ⟨y, x, i⟩ ∈ c.prev ↔
  ∃ b : Block, flow.blocks[i]? = some b ∧ ⟨x, y, j⟩ ∈ b.next

def withNext : Array Block := bs.toArray.map fun b => { b with next := nextOf bs.toArray ends b }

/-- The block of a number, linked both ways. -/
def linked (j : Nat) (b : Block) : Block :=
 { b with
   next := nextOf bs.toArray ends b
   prev := b.prev ++ ((arrows (withNext bs ends)).filter (·.2.block = j)).map back }

lemma getElem?_withPrev (guard : Block -> Option Nat) (j : Nat) :
  ((withPrev (withNext bs ends)).map fun b => { b with guard := guard b })[j]? =
   bs[j]?.map fun b => { linked bs ends j b with guard := guard (linked bs ends j b) } := by
 rw [Array.getElem?_map, withPrev_eq, withNext, Array.getElem?_map, getElem?_toArray, Option.map_map, Option.map_map]
 rfl

end

lemma mem_prev_linked (hf : b.prev = []) : ⟨y, x, i⟩ ∈ (linked bs ends j b).prev ↔
   ∃ c, bs[i]? = some c ∧ ⟨x, y, j⟩ ∈ nextOf bs.toArray ends c := by
 have ha : ∀ {i l}, (i, l) ∈ arrows (withNext bs ends) ↔ ∃ c, bs[i]? = some c ∧ l ∈ nextOf bs.toArray ends c := by
  intro i l
  simp only [mem_arrows, withNext, Array.getElem?_map, getElem?_toArray, Option.map_eq_some_iff, exists_exists_and_eq_and]
 simp only [linked, hf, nil_append, mem_map, mem_filter, decide_eq_true_eq, <- ha]
 constructor
 · rintro ⟨⟨i', l⟩, ⟨hi, here⟩, same⟩
   cases same
   cases here
   exact hi
 · exact fun hi => ⟨(i, ⟨x, y, j⟩), ⟨hi, rfl⟩, rfl⟩

lemma exact_linked
  (hd : Divides 2 title dsts ((all.filterMap (leaving all)).map (·.1)) all bs) (laid : Laid 0 all)
  (long : ∀ p ∈ all, 2 ≤ p.2.length) (ht : ∀ t ∈ named, ∃ b ∈ bs, (b.start : Int) = t)
  (hw : ∀ p ∈ all, ∀ t ∈ places all p, t ∈ named) (guard : Block -> Option Nat) (gs : Array Guard) : Exact all named
   ⟨(withPrev (withNext bs (all.filterMap (leaving all)))).map fun b => { b with guard := guard b }, gs⟩ := by
 generalize ends : all.filterMap (leaving all) = es at *
 have get := getElem?_withPrev bs es guard
 generalize (withPrev (withNext bs es)).map (fun b => { b with guard := guard b }) = final at *
 have old : ∀ {b'}, b' ∈ final -> ∃ b ∈ bs,
   (∀ all, b'.code all = b.code all) ∧ b'.start = b.start ∧ b'.next = nextOf bs.toArray es b := by
  intro b' hm
  obtain ⟨j, at_j⟩ := Array.mem_iff_getElem?.mp hm
  rw [get] at at_j
  obtain ⟨b, own, rfl⟩ := Option.map_eq_some_iff.mp at_j
  exact ⟨b, mem_of_getElem? own, fun _ => rfl, rfl, rfl⟩
 have starting : ∀ {j : Nat} {t : Int}, (∃ c : Block, bs[j]? = some c ∧ (c.start : Int) = t) ↔
   ∃ c : Block, final[j]? = some c ∧ (c.start : Int) = t := by
  intro j t
  simp only [get, Option.map_eq_some_iff, exists_exists_and_eq_and]
  rfl
 refine { code := ?code, start := ?start, inner := ?inner, dsts := ?dsts, next := ?next, prev := ?prev }
 case code =>
  have hc : final.toList.map (·.code all) = bs.map (·.code all) := by
   refine ext_getElem? fun j => ?_
   rw [getElem?_map, getElem?_map, Array.getElem?_toList, get, Option.map_map]
   rfl
  rw [flatMap_def, hc, <- flatMap_def, hd.code]
 case start =>
  intro b' hm
  obtain ⟨b, memB, code, start, -⟩ := old hm
  have hl := (hd.filled b memB).laid
  rw [code, start]
  cases held : b.code all with
  | nil => exact absurd held (hd.whole b memB).1
  | cons p run =>
   rw [held] at hl
   exact congrArg some hl.1
 case inner =>
  intro b' hm inner p code q hi
  obtain ⟨b, memB, same, -⟩ := old hm
  rw [same] at code
  by_contra hv
  refine (hd.last_at memB code).2.2 q hi ?_
  have memQ : q ∈ b.code all := by simp [code, hi]
  rw [<- ends]
  exact mem_keys_leaving (mem_of_mem_filter memQ) hv
 case dsts =>
  intro t hn
  obtain ⟨b, memB, start⟩ := ht t hn
  obtain ⟨j, at_j⟩ := getElem?_of_mem memB
  obtain ⟨c, at_j, start⟩ := starting.mp ⟨b, at_j, start⟩
  exact ⟨c, Array.mem_of_getElem? at_j, start⟩
 case next =>
  intro b' hm inner p code l
  obtain ⟨b, memB, same, -, next⟩ := old hm
  rw [same] at code
  have memP : p ∈ b.code all := by simp [code]
  rw [next, <- starting, <- ends]
  subst ends
  exact mem_nextOf hd laid long memB code fun t hna => ht t (hw p (mem_of_mem_filter memP) t hna)
 case prev =>
  intro j c at_j x y i
  rw [get] at at_j
  obtain ⟨b, own, rfl⟩ := Option.map_eq_some_iff.mp at_j
  refine (mem_prev_linked (congrArg Block.prev (hd.filled b (mem_of_getElem? own)).bare.symm)).trans ?_
  simp only [get, Option.map_eq_some_iff, exists_exists_and_eq_and]
  rfl

lemma two_le_length {ins : Instr} (hr : ins.isResolved = true) : 2 ≤ ins.length := by
 cases ins with
 | unresolved data => cases hr
 | _ =>
  simp only [Instr.length]
  omega

lemma ofCode_ok (read : c.Read false) (hso : Sound c)
  (hna : ∀ p ∈ located 0 c.instrs, p.2.Named) (hc : c.decoded = .ok c.instrs)
  (ends : ofCode d title c = .ok flow) : (∀ ins ∈ c.instrs, ins.jumbo = false) ∧ Typed d c ∧
   Exact (located 0 c.instrs) (targetsOf c) flow := by
 obtain ⟨is, hd, ends⟩ := bind_ok ends
 rw [hc] at hd
 cases hd
 obtain ⟨es, hb, ends⟩ := bind_ok ends
 obtain ⟨gs, hg, ends⟩ := bind_ok ends
 have ho := branches_named hb hna
 obtain ⟨hy, hr⟩ := guardsOf_ok read hg
 rw [branches_ok hna hso.paid ho] at hb
 cases hb
 cases ends
 have laid := laid_located 0 c.instrs
 have long : ∀ p ∈ located 0 c.instrs, 2 ≤ p.2.length :=
  forall_located.mpr fun ins hm => two_le_length (hso.resolved ins hm)
 refine ⟨forall_located.mp ho, hy,
  exact_linked (cut_divides title _ _ laid two_pos long) laid long (fun t hi => ?_) (fun p hm t hn => ?_) _ _⟩
 · have ht : t ∈ ((located 0 c.instrs).filterMap (leaving (located 0 c.instrs))).flatMap (·.2) ++
     gs.flatMap fun g => g.start :: g.handlers.map fun h => h.addr := by
    rcases mem_append.mp hi with hin | hgu
    · obtain ⟨q, memQ, hn⟩ := mem_flatMap.mp hin
      exact mem_append_left _ (places_noted memQ hn)
    · rw [guardPlaces_eq d c] at hgu
      exact mem_append_right _ ((hr.flatMap_right _).mem_iff.mpr hgu)
   obtain ⟨p, hm, rfl⟩ := hso.boundaries t hi
   obtain ⟨b, memB, start⟩ := (cut_divides title _ _ laid two_pos long).start_of_dst hm ht
   exact ⟨b, memB, congrArg Nat.cast start⟩
 · exact mem_append_left _ (mem_flatMap.mpr ⟨p, hm, hn⟩)

lemma ofCode_exists (hn : Sound c) (hm : ∀ p ∈ located 0 c.instrs, p.2.Named) (hd : c.decoded = .ok c.instrs)
  (ho : ∀ ins ∈ c.instrs, ins.jumbo = false) (ht : Typed d c) : ∃ flow, ofCode d title c = .ok flow := by
 obtain ⟨gs, hg, -⟩ := guardsOf_perm hn.handled ht
 have hb := branches_ok hm hn.paid (forall_located.mpr ho)
 unfold ofCode
 rw [hd, hg]
 exact ⟨_, bind_of_ok hb _⟩

/-- The code of a loaded file is plain: all of it decodes, and its instructions are of the listed kinds. -/
lemma plain_code (hl : File.load false recode blob = .ok d) (hk : d.codeOf? r = some c) :
  c.Read false ∧ c.decoded = .ok c.instrs ∧ ∀ ins ∈ c.instrs, ins.Plain := by
 have read := File.read_of_codeOf hl hk
 obtain ⟨hn, hp⟩ := sweep_plain c.units c.bytes 0
 rw [read.swept] at hn hp
 have hd : c.decoded = .ok c.instrs := by
  unfold CodeItem.decoded
  simp only at hn
  rw [hn]
 exact ⟨read, hd, hp⟩

lemma ofMethod_ok (hl : File.load false recode blob = .ok d) (hk : d.codeOf? r = some c) (hn : Sound c)
  (ends : ofMethod d r = .ok flow) : (∀ ins ∈ c.instrs, ins.jumbo = false) ∧ Typed d c ∧
   Exact (located 0 c.instrs) (targetsOf c) flow := by
 obtain ⟨read, hd, hp⟩ := plain_code hl hk
 rw [ofMethod, hk] at ends
 exact ofCode_ok read hn (forall_located.mpr fun ins hm => (hp ins hm).named) hd ends

/-- Code of a plain file has an exact flow, unless it loads a class by an index of four bytes or handles a
    type without a name: then it has none. -/
theorem ofMethod_exact {recode : Bool} {blob : Bytes} {d : File} (loaded : File.load false recode blob = .ok d)
  {r : MRef} {c : CodeItem} (known : d.codeOf? r = some c) (sound : Sound c) :
  ((∃ flow, ofMethod d r = .ok flow) ↔ (∀ ins ∈ c.instrs, ins.jumbo = false) ∧ Typed d c) ∧
   ∀ flow, ofMethod d r = .ok flow -> Exact (located 0 c.instrs) (targetsOf c) flow := by
 refine ⟨⟨fun ⟨flow, ends⟩ => ?_, fun ⟨ho, ht⟩ => ?_⟩, fun flow ends => (ofMethod_ok loaded known sound ends).2.2⟩
 · obtain ⟨ho, ht, -⟩ := ofMethod_ok loaded known sound ends
   exact ⟨ho, ht⟩
 · obtain ⟨-, hd, hp⟩ := plain_code loaded known
   rw [ofMethod, known]
   exact ofCode_exists sound (forall_located.mpr fun ins hm => (hp ins hm).named) hd ho ht

/-! ## A specimen

A method with a branch, a switch and a guarded range, which names a text, calls itself and creates an object.
The first byte of its one opcode of two bytes stands open.
-/

namespace Specimen

open Bytes in
def blob (n : UInt8) : Bytes :=
 -- header
 ofWords [0xa786564, 0x353330, 0, 0, 0, 0, 0, 0, 380, 112, 0x12345678, 0, 0, 280, 3, 112, 2, 124, 1, 132, 0, 0, 1,
  144, 1, 152, 196, 184] ++
 -- offsets of the strings
 ofWords [184, 189, 192] ++
 -- types
 ofWords [0, 1] ++
 -- descriptor
 ofWords [1, 1, 0] ++
 -- method
 ofWords [0, 2] ++
 -- class
 ofWords [0, 1, 0xffffffff, 0, 0xffffffff, 0, 271, 0] ++
 -- strings
 ofTexts ["LA;", "V", "m"] ++ [0] ++
 -- code of the method
 [1, 0, 0, 0, 0, 0, 1, 0, 0, 0, 0, 0, 24, 0, 0, 0, 18, 0, 56, 0, 12, 0, 43, 0, 15, 0, 0, 0, 26, 0, 0, 0, 113, 0, 0,
  0, 0, 0, 34, 0, 0, 0, 255, n, 0, 0, 0, 0, 0, 0, 14, 0, 0, 1, 1, 0, 0, 0, 0, 0, 10, 0, 0, 0, 13, 0, 0, 0, 4, 0, 1,
  0, 1, 0, 17] ++
 -- members of the class
 [0, 0, 1, 0, 0, 9, 196, 1, 0] ++
 -- map
 ofWords [8, 1, 3, 112, 2, 2, 124, 3, 1, 132, 5, 1, 144, 6, 1, 152, 0x2002, 3, 184, 0x2001, 1, 196, 0x2000, 1, 271]

/-- The method of the specimen. -/
def method : MRef := ⟨0, 0⟩

lemma blobs_sound : (∃ d, File.load false false (blob 3) = .ok d ∧ ∃ c ∈ d.codeOf? method, Sound c ∧ Typed d c ∧
   ∀ ins ∈ c.instrs, ins.jumbo = false) ∧
  ∃ d, File.load false false (blob 0) = .ok d ∧ ∃ c ∈ d.codeOf? method, Sound c ∧ Typed d c ∧
   ∃ ins ∈ c.instrs, ins.jumbo = true :=
 ⟨by decide +kernel, by decide +kernel⟩

end Specimen

/-- The flow of the specimen that creates an object is exact. -/
theorem creation_flow_exact : ∃ d c flow, File.load false false (Specimen.blob 3) = .ok d ∧
  d.codeOf? Specimen.method = some c ∧ Sound c ∧ ofMethod d Specimen.method = .ok flow ∧
  Exact (located 0 c.instrs) (targetsOf c) flow := by
 obtain ⟨⟨d, loaded, c, known, sound, typed, other⟩, -⟩ := Specimen.blobs_sound
 obtain ⟨has, exact⟩ := ofMethod_exact loaded known sound
 obtain ⟨flow, ends⟩ := has.mpr ⟨other, typed⟩
 exact ⟨d, c, flow, loaded, known, sound, ends, exact flow ends⟩

/-- The specimen that loads a class has no flow, although nothing is wrong with its code. -/
theorem jumbo_class_without_flow : ∃ d c, File.load false false (Specimen.blob 0) = .ok d ∧
  d.codeOf? Specimen.method = some c ∧ Sound c ∧ Typed d c ∧ ∀ flow, ofMethod d Specimen.method ≠ .ok flow := by
 obtain ⟨-, d, hl, c, hk, hn, ht, ins, hm, hi⟩ := Specimen.blobs_sound
 refine ⟨d, c, hl, hk, hn, ht, fun flow ends => ?_⟩
 obtain ⟨ho, -⟩ := ofMethod_ok hl hk hn ends
 rw [ho ins hm] at hi
 cases hi

end DexLens.Analysis.Flow
