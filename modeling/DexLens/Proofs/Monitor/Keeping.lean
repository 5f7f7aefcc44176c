import DexLens.Proofs.Monitor.Loading

/-! # The names under which files are kept

A file is kept under its name with the digest of its content and a number put before the extension. Both can be read
off the name again, and the number of a load is new among the loads of its content. So no file of a session takes
the name of another one.
-/

namespace DexLens.Digest

open List

lemma length_sha256Round (w : Array UInt32) (s : List UInt32) (t : Nat) : (sha256Round w s t).length = s.length := by
 unfold sha256Round
 split <;> rfl

lemma length_sha256Block (h : List UInt32) (block : Array UInt32) : (sha256Block h block).length = h.length := by
 have hr : ((range 64).foldl (sha256Round (sha256Schedule block)) h).length = h.length :=
  foldlRecOn (motive := fun s => s.length = h.length) _ _ rfl
   fun s kept t _ => (length_sha256Round _ s t).trans kept
 simp only [sha256Block, length_zipWith, hr, min_self]

lemma length_bytesBig (ws : List UInt32) : (bytesBig ws).length = 4 * ws.length := by
 induction ws with
 | nil => rfl
 | cons w ws ih =>
  have word : (Bytes.ofNatLE 4 w.toNat).length = 4 := rfl
  simp only [bytesBig, flatMap_cons, length_append, length_reverse, length_cons, word] at ih ⊢
  omega

lemma length_sha256 (bs : Bytes) : (sha256 bs).length = 32 := by
 have hs : ∀ (blocks : List (Array UInt32)) (h : List UInt32), (blocks.foldl sha256Block h).length = h.length := by
  intro blocks
  induction blocks with
  | nil => exact fun h => rfl
  | cons block blocks ih => exact fun h => (ih _).trans (length_sha256Block h block)
 rw [sha256, length_bytesBig, hs]
 rfl

end DexLens.Digest

namespace DexLens.Monitor

open CallGraph Effect List Nat Session

def Solid (s : String) : Prop := ∀ c ∈ s.toList, c ≠ '.' ∧ c ≠ '/' ∧ c ≠ '-'

section

variable (n : Nat) (path : String) (blob : Bytes)

lemma length_digestOf : (digestOf blob).toList.length = 64 := by
 have hp : ∀ bs : Bytes, (Bytes.toHex bs).toList.length = 2 * bs.length := by
  intro bs
  rw [Bytes.toHex, String.toList_ofList]
  induction bs with
  | nil => rfl
  | cons b bs ih =>
   simp only [flatMap_cons, length_append, length_cons, length_nil, ih]
   omega
 rw [digestOf, hp, Digest.length_sha256]

lemma solid_digestOf : Solid (digestOf blob) := by
 have hd : ∀ n < 16, digitChar n ≠ '.' ∧ digitChar n ≠ '/' ∧ digitChar n ≠ '-' := by decide
 intro c hm
 rw [digestOf, Bytes.toHex, String.toList_ofList] at hm
 obtain ⟨b, -, ht⟩ := mem_flatMap.mp hm
 have hs : b.toNat < 256 := b.toNat_lt
 rcases mem_pair.mp ht with rfl | rfl
 · exact hd _ (by omega)
 · exact hd _ (by omega)

lemma solid_toString : Solid (toString n) := by
 intro c hm
 rw [toString_eq_repr, toList_repr] at hm
 have hd : c.isDigit = true := isDigit_of_mem_toDigits (by decide) (by decide) hm
 refine ⟨?_, ?_, ?_⟩ <;> rintro rfl <;> exact absurd hd (by decide)

lemma solid_main : Solid "main" := by simp [Solid]

lemma toString_ne_main : toString n ≠ "main" := by
 intro same
 have hm : 'm' ∈ (toString n).toList := by
  rw [same]
  decide
 rw [toString_eq_repr, toList_repr] at hm
 exact absurd (isDigit_of_mem_toDigits (by decide) (by decide) hm) (by decide)

/-- The extension runs up to the last dot behind the last slash, if anything but dots stands before it there. -/
lemma splitExtension_eq (ho : path.toList.reverse.takeWhile (· != '/') = last) (hf : last.takeWhile (· != '.') = ext) :
  splitExtension path = if ext.length < last.length ∧ (last.drop (ext.length + 1)).any (· != '.') then
   (String.ofList (path.toList.reverse.drop (ext.length + 1)).reverse, String.ofList ('.' :: ext.reverse))
   else (path, "") := by
 subst ho hf
 simp only [splitExtension, Bool.and_eq_true, decide_eq_true_eq]

lemma exists_of_takeWhile (ht : last.takeWhile (· != '.') = ext)
  (more : ext.length < last.length) : ∃ stem, last = ext ++ '.' :: stem := by
 cases rest : last.dropWhile (· != '.') with
 | nil =>
  have hw : last = ext := by rw [<- ht, <- append_nil (last.takeWhile _), <- rest, takeWhile_append_dropWhile]
  exact absurd more (by simp [hw])
 | cons c stem =>
  have dot : c = '.' := by
   have hf := head_dropWhile_not (p := (· != '.')) (l := last) (by simp [rest])
   simpa [rest] using hf
  subst dot
  refine ⟨stem, ?_⟩
  rw [<- ht, <- rest, takeWhile_append_dropWhile]

def labelBack (digest count : String) : List Char := ("_" ++ digest ++ "-" ++ count).toList.reverse

lemma mem_labelBack {digest count} (ho : Solid digest) (hf : Solid count) {c}
  (hm : c ∈ labelBack digest count) : c ≠ '.' ∧ c ≠ '/' := by
 simp only [labelBack, String.toList_append, mem_reverse, mem_append, or_assoc] at hm
 rcases hm with line | hi | dash | hi
 · rw [mem_singleton.mp line]
   decide
 · exact ⟨(ho c hi).1, (ho c hi).2.1⟩
 · rw [mem_singleton.mp dash]
   decide
 · exact ⟨(hf c hi).1, (hf c hi).2.1⟩

/-- A kept name has the extension that the name had before: no name is parted inside of what is put in. -/
lemma splitExtension_keptPath {digest count} (hg : Solid digest) (hc : Solid count) :
  splitExtension (keptPath path digest count) =
   ((splitExtension path).1 ++ "_" ++ digest ++ "-" ++ count, (splitExtension path).2) := by
 obtain ⟨label, ho⟩ : ∃ label, label = labelBack digest count := ⟨_, rfl⟩
 have hli : label.any (· != '.') = true := by
  rw [any_eq_true]
  exact ⟨'_', by simp [ho, labelBack], by decide⟩
 have hl : ∀ c ∈ label, (c != '/') = true := fun c hm => bne_iff_ne.mpr (mem_labelBack hg hc (ho ▸ hm)).2
 have hnd : ∀ c ∈ label, (c != '.') = true := fun c hm => bne_iff_ne.mpr (mem_labelBack hg hc (ho ▸ hm)).1
 obtain ⟨last, hf⟩ : ∃ last, path.toList.reverse.takeWhile (· != '/') = last := ⟨_, rfl⟩
 obtain ⟨ext, hof⟩ : ∃ ext, last.takeWhile (· != '.') = ext := ⟨_, rfl⟩
 have hp := splitExtension_eq path hf hof
 by_cases hd : ext.length < last.length ∧ (last.drop (ext.length + 1)).any (· != '.') = true
 · rw [if_pos hd] at hp
   obtain ⟨stem, ht⟩ : ∃ stem, last = ext ++ '.' :: stem := exists_of_takeWhile hof hd.1
   obtain ⟨rest, hs⟩ : ∃ rest, path.toList.reverse = ext ++ '.' :: rest := by
    refine ⟨stem ++ path.toList.reverse.dropWhile (· != '/'), ?_⟩
    rw [<- cons_append, <- append_assoc, <- ht, <- hf, takeWhile_append_dropWhile]
   have hn : ∀ c ∈ ext ++ ['.'], (c != '/') = true := by
    intro c hm
    have hi : c ∈ last := by
     rw [ht, append_cons]
     exact mem_append_left _ hm
    rw [<- hf] at hi
    exact mem_takeWhile_imp (p := (· != '/')) hi
   have hw : rest.takeWhile (· != '/') = stem := by
    rw [hs, ht, append_cons, append_cons _ _ stem, takeWhile_append_of_pos hn] at hf
    exact append_cancel_left hf
   have name : (keptPath path digest count).toList.reverse = ext ++ '.' :: (label ++ rest) := by
    simp [keptPath, hp, ho, labelBack, hs]
   have hr : (keptPath path digest count).toList.reverse.takeWhile (· != '/') = ext ++ '.' :: (label ++ stem) := by
    rw [name, append_cons, takeWhile_append_of_pos hn, takeWhile_append_of_pos hl, hw, <- append_cons]
   have hx : (ext ++ '.' :: (label ++ stem)).takeWhile (· != '.') = ext := by
    have hno : ∀ c ∈ ext, (c != '.') = true := fun c hm => mem_takeWhile_imp (p := (· != '.')) (hof ▸ hm)
    rw [takeWhile_append_of_pos hno]
    simp
   rw [splitExtension_eq _ hr hx, if_pos, hp, name]
   · simp [hs, ho, labelBack, String.append_assoc]
   · simp [hli]
 · rw [if_neg hd] at hp
   have name : (keptPath path digest count).toList.reverse = label ++ path.toList.reverse := by
    simp [keptPath, hp, ho, labelBack]
   have hr : (keptPath path digest count).toList.reverse.takeWhile (· != '/') = label ++ last := by
    rw [name, takeWhile_append_of_pos hl, hf]
   have hx : (label ++ last).takeWhile (· != '.') = label ++ ext := by rw [takeWhile_append_of_pos hnd, hof]
   rw [splitExtension_eq _ hr hx, if_neg, hp, keptPath, hp]
   · simp
   · simpa [drop_append, drop_eq_nil_of_le, add_assoc] using hd

/-- The digest and the number can be read off a kept name, whatever the name was before. -/
lemma of_keptPath_eq {path path' blob content' count count'} (hso : Solid count)
  (hl : Solid count') (same : keptPath path (digestOf blob) count = keptPath path' (digestOf content') count') :
  digestOf blob = digestOf content' ∧ count = count' := by
 have hs := congrArg (fun name => (splitExtension name).1.toList.reverse) same
 simp only [splitExtension_keptPath _ (solid_digestOf _), hso, hl, String.toList_append, reverse_append] at hs
 have dash : ("-" : String).toList.reverse = ['-'] := by decide
 rw [dash, singleton_append, singleton_append] at hs
 have hu : ∀ {number : String}, Solid number -> ∀ c ∈ number.toList.reverse, (c != '-') = true :=
  fun ho c hm => bne_iff_ne.mpr (ho c (mem_reverse.mp hm)).2.2
 have hc : count.toList.reverse = count'.toList.reverse := by
  have ht := congrArg (takeWhile (· != '-')) hs
  rw [takeWhile_append_of_pos (hu hso), takeWhile_append_of_pos (hu hl)] at ht
  simpa using ht
 rw [hc] at hs
 have hd := append_inj_left (cons.inj (append_cancel_left hs)).2
  (by simp only [length_reverse, length_digestOf])
 exact ⟨String.toList_inj.mp (reverse_injective hd), String.toList_inj.mp (reverse_injective hc)⟩

/-! ## The files of a session -/

end

@[simp] lemma Mirror.dexes_alter (k : Mirror)
  (f : Watch Suspicion Crossing -> Watch Suspicion Crossing) (s : Session) :
  (k.alter f s).dexes = s.dexes := by cases k <;> rfl

lemma Reflected.dexes (ho : Reflected k dst stack s (r, t)) : t.dexes = s.dexes := by cases ho <;> simp

lemma put_of_fresh (hf : k ∉ t.map (·.1)) (v : β) : put t k v = t ++ [(k, v)] := Lookup.amend_of_not_mem hf

namespace Session

variable (s : Session) (path : String) (blob : Bytes)

lemma dexes_after_began : (s.after (.began path blob)).dexes =
   put s.dexes (keptPath path (digestOf blob) "main") (digestOf blob) := (s.files_after_began path blob).2

lemma dexes_after_reflected (k : Mirror) (dst : Sig) (stack : List Frame) :
  (s.after (.received (.reflected k dst stack))).dexes = s.dexes :=
 (reflected_cases k dst stack s).dexes

lemma dexes_after_loaded (stack : List Frame) : (s.after (.received (.loaded path blob stack))).dexes =
   put s.dexes (s.keptAs path blob) (digestOf blob) := (s.files_after_loaded path blob stack).2

end Session

/-- The file that was loaded, if a message tells of one. -/
def Message.file? : Message -> Option (String × Bytes)
 | .reflected .. => none
 | .loaded path blob _ => some (path, blob)

/-- The number of a load is that of the loads of its content so far. -/
def keptEntries : List String -> List (String × Bytes) -> List (String × String)
 | _, [] => []
 | seen, (path, blob) :: files =>
  (keptPath path (digestOf blob) (toString (seen.count (digestOf blob) + 1)), digestOf blob) ::
   keptEntries (seen ++ [digestOf blob]) files

lemma keptEntries_digests (seen : List String) (files : List (String × Bytes)) :
  (keptEntries seen files).map (·.2) = files.map fun f => digestOf f.2 := by
 induction files generalizing seen with
 | nil => rfl
 | cons f files ih => exact congrArg (digestOf f.2 :: ·) (ih _)

/-- The books about files agree with the digests of all loads so far, the first file included. -/
structure Session.Shelved (seen : List String) (s : Session) : Prop where
 counted : ∀ d, s.loadsOf d = seen.count d
 named : ∀ e ∈ s.dexes, ∃ path blob count, e = (keptPath path (digestOf blob) count, digestOf blob) ∧
  (count = "main" ∨ ∃ n ≤ seen.count (digestOf blob), count = toString n)
 apart : (s.dexes.map (·.1)).Nodup

namespace Session.Shelved

variable {seen : List String} {s : Session}

lemma keptAs_notMem (hs : Shelved seen s) (path : String) (blob : Bytes) :
  s.keptAs path blob ∉ s.dexes.map (·.1) := by
 intro hm
 obtain ⟨e, hl, same⟩ := mem_map.mp hm
 obtain ⟨path', content', count, rfl, hb⟩ := hs.named e hl
 rw [keptAs, hs.counted] at same
 rcases hb with rfl | ⟨n, hw, rfl⟩
 · exact toString_ne_main _ (of_keptPath_eq solid_main (solid_toString _) same).2.symm
 · obtain ⟨hd, hn⟩ := of_keptPath_eq (solid_toString _) (solid_toString _) same
   rw [toString_eq_repr, toString_eq_repr] at hn
   have ht := repr_injective hn
   rw [hd] at hw
   omega

lemma began (needs : Inspect.Needs) (unpack : Unpacker) (path : String) (blob : Bytes) :
  ((start needs unpack).after (.began path blob)).dexes =
    [(keptPath path (digestOf blob) "main", digestOf blob)] ∧
   Shelved [digestOf blob] ((start needs unpack).after (.began path blob)) := by
 have hf := (start needs unpack).dexes_after_began path blob
 refine ⟨hf, fun d => ?_, ?_, ?_⟩
 · rw [loadsOf_after_began, count_singleton]
   have none : (start needs unpack).loadsOf d = 0 := rfl
   by_cases same : d = digestOf blob
   · simp [same]
   · simp [same, none, Ne.symm same]
 · rw [hf]
   exact fun e hm => ⟨path, blob, "main", mem_singleton.mp hm, .inl rfl⟩
 · rw [hf]
   exact nodup_singleton _

lemma loaded (hs : Shelved seen s) (path : String) (blob : Bytes) (stack : List Frame) :
  (s.after (.received (.loaded path blob stack))).dexes = s.dexes ++ [(s.keptAs path blob, digestOf blob)] ∧
   Shelved (seen ++ [digestOf blob]) (s.after (.received (.loaded path blob stack))) := by
 have hr := hs.keptAs_notMem path blob
 have hf := s.dexes_after_loaded path blob stack
 rw [put_of_fresh hr] at hf
 refine ⟨hf, fun d => ?_, fun e hm => ?_, ?_⟩
 · rw [loadsOf_after_loaded, hs.counted, count_append, count_singleton]
   by_cases same : d = digestOf blob
   · simp [same]
   · simp [same, Ne.symm same]
 · rw [hf] at hm
   rcases mem_append.mp hm with old | new
   · obtain ⟨path', content', count, he, hn⟩ := hs.named e old
     refine ⟨path', content', count, he, hn.imp_right ?_⟩
     rintro ⟨n, hw, text⟩
     exact ⟨n, by rw [count_append]; omega, text⟩
   · refine ⟨path, blob, _, mem_singleton.mp new, .inr ⟨_, ?_, rfl⟩⟩
     rw [hs.counted, count_append, count_singleton_self]
 · rw [hf, map_append, nodup_append]
   exact ⟨hs.apart, nodup_singleton _, by grind⟩

lemma run (hs : Shelved seen s) (ms : List Message) :
  (s.run (ms.map .received)).dexes = s.dexes ++ keptEntries seen (ms.filterMap Message.file?) ∧
   Shelved (seen ++ (ms.filterMap Message.file?).map fun f => digestOf f.2) (s.run (ms.map .received)) := by
 induction ms generalizing seen s with
 | nil => exact ⟨by simp [keptEntries, run_nil], by simpa [run_nil] using hs⟩
 | cons m ms ih =>
  rw [map_cons, run_cons]
  cases m with
  | reflected k dst stack =>
   have hf := s.dexes_after_reflected k dst stack
   have same : Shelved seen (s.after (.received (.reflected k dst stack))) := by
    refine ⟨fun d => ?_, hf ▸ hs.named, hf ▸ hs.apart⟩
    rw [loadsOf_after_reflected, hs.counted]
   simpa only [filterMap_cons, Message.file?, hf] using ih same
  | loaded path blob stack =>
   obtain ⟨hf, hg⟩ := hs.loaded path blob stack
   have rest := ih hg
   rw [hf, keptAs, hs.counted] at rest
   simpa [Message.file?, keptEntries] using rest

end Session.Shelved

/-- Each load adds one entry for its file: the name it is kept under, with the digest of its content. No two files are
    kept under one name, and a content was loaded as often as its counter says. -/
theorem loads_kept_apart (needs : Inspect.Needs) (unpack : Unpacker) (path : String) (blob : Bytes)
  (ms : List Message) : let t:= (start needs unpack).run (.began path blob :: ms.map .received)
  let files := ms.filterMap Message.file?
  t.dexes = (keptPath path (digestOf blob) "main", digestOf blob) :: keptEntries [digestOf blob] files ∧
  t.dexes.map (·.2) = digestOf blob :: files.map (fun f => digestOf f.2) ∧
  (t.dexes.map (·.1)).Nodup ∧
  ∀ d, t.loadsOf d = (digestOf blob :: files.map fun f => digestOf f.2).count d := by
 intro t files
 obtain ⟨hf, hs⟩ := Shelved.began needs unpack path blob
 obtain ⟨all, hs⟩ := hs.run ms
 have hl : t.dexes =
   (keptPath path (digestOf blob) "main", digestOf blob) :: keptEntries [digestOf blob] files := by
  rw [hf] at all
  exact all
 refine ⟨hl, ?_, hs.apart, hs.counted⟩
 rw [hl, map_cons, keptEntries_digests]

end DexLens.Monitor
