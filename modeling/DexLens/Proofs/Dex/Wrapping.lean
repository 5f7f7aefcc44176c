import DexLens.Dex.Save
import DexLens.Proofs.Dex.CodeItems
import DexLens.Proofs.Dex.Taking

/-! # Files that are wrapped

A head with offsets and lengths, the wrapped file, the files that it depends on, and what is left. The parts are
glued together again without what stood before the dependencies.
-/

namespace DexLens.Dex

open Bytes File List Reader

/-- Dependencies are names with check sums of twenty bytes; the gap brings them to a place that suits them. -/
structure Wrapped where
 magic : Bytes
 known : magic ∈ odexMagics
 (dex gap : Bytes)
 (modificationTime crc build : UInt32)
 dependencies : List (Bytes × Bytes)
 count : dependencies.length < 2 ^ 32
 lengths : ∀ x ∈ dependencies, x.1.length < 2 ^ 32 ∧ x.2.length = 20
 (auxOffset auxLength flags padding : UInt32)
 rest : Bytes

namespace Wrapped

variable (x : Wrapped)

def named (dep : Bytes × Bytes) : Bytes := ofNatLE 4 dep.1.length ++ (dep.1 ++ dep.2)

def depBytes : Bytes :=
 ofWords [x.modificationTime.toNat, x.crc.toNat, x.build.toNat, x.dependencies.length] ++ x.dependencies.flatMap named

/-- Where the dependencies stand. -/
def place : Nat := 40 + x.dex.length + x.gap.length

def words : List Nat :=
 [40, x.dex.length, x.place, x.depBytes.length, x.auxOffset.toNat, x.auxLength.toNat, x.flags.toNat, x.padding.toNat]

/-- The file with a gap of the given bytes, whatever the head says. -/
def around (gap : Bytes) : Bytes := x.magic ++ (ofWords x.words ++ (x.dex ++ (gap ++ (x.depBytes ++ x.rest))))

def bytes : Bytes := x.around x.gap

def parts : OdexParts where
 dexOffset := 40
 dexLength := x.dex.length
 depsOffset := x.place
 depsLength := x.depBytes.length
 auxOffset := x.auxOffset.toNat
 auxLength := x.auxLength.toNat
 flags := x.flags.toNat
 padding := x.padding.toNat
 modificationTime := x.modificationTime.toNat
 crc := x.crc.toNat
 build := x.build.toNat
 count := x.dependencies.length
 dependencies := x.dependencies
 trailer := x.rest

variable {x}

lemma length_magic : x.magic.length = 8 := by
 have : ∀ m ∈ odexMagics, m.length = 8 := by decide
 exact this x.magic x.known

lemma length_words (ws : List Nat) : (ofWords ws).length = 4 * ws.length := by simp [ofWords, mul_comm]

lemma length_bytes : x.bytes.length = x.place + x.depBytes.length + x.rest.length := by
 simp [bytes, around, length_magic, length_words, words, place]
 omega

end Wrapped

variable {buf : Buffer}

lemma takes_words (hw : ∀ w ∈ ws, w < 2 ^ 32) : Takes buf (Reader.array (u32 buf) ws.length) (ofWords ws) (ws.toArray = ·) := by
 refine (Takes.many fun w hm => takes_unsigned (hw w hm)).last ?_
 rintro _ rfl
 rw [map_id']

lemma takes_dependency (hd : dep.1.length < 2 ^ 32 ∧ dep.2.length = 20) :
  Takes buf (readDependency buf) (Wrapped.named dep) (dep = ·) := by
 refine (takes_unsigned hd.1).bind ?_
 rintro _ rfl
 refine (takes_take dep.1).bind ?_
 rintro _ rfl
 refine (hd.2 ▸ takes_take dep.2).last ?_
 rintro _ rfl
 rfl

namespace Wrapped

variable {x : Wrapped} (few : x.bytes.length < 2 ^ 32)

include few

lemma run_readOuter : ∃ q, (readOuter x.bytes.toArray).run 0 = .ok (x.parts, q) := by
 rw [length_bytes] at few
 have hw : ∀ w ∈ x.words, w < 2 ^ 32 := by
  simp only [words, forall_mem_cons]
  exact ⟨by decide, by unfold place at few; omega, by omega, by omega, x.auxOffset.toNat_lt, x.auxLength.toNat_lt, x.flags.toNat_lt,
   x.padding.toNat_lt, nofun⟩
 have hv : ∀ w ∈ [x.modificationTime.toNat, x.crc.toNat, x.build.toNat, x.dependencies.length], w < 2 ^ 32 := by
  simp only [forall_mem_cons]
  exact ⟨x.modificationTime.toNat_lt, x.crc.toNat_lt, x.build.toNat_lt, x.count, nofun⟩
 have head : x.bytes.drop 8 = ofWords x.words ++ (x.dex ++ (x.gap ++ (x.depBytes ++ x.rest))) :=
  drop_left' length_magic
 have tail : x.bytes.drop x.place = x.depBytes ++ x.rest := by
  rw [show x.place = 8 + ((ofWords x.words).length + (x.dex.length + x.gap.length)) by
   rw [length_words]; simp [words, place]; omega, <- drop_drop, head, <- drop_drop, drop_left, <- drop_drop, drop_left, drop_left]
 have trailer : (x.bytes.toArray.extract (x.place + x.depBytes.length) x.bytes.toArray.size).toList = x.rest := by
  rw [Array.toList_extract, extract_eq_take_drop, <- drop_drop, tail, drop_left]
  exact take_of_length_le (by simp [length_bytes])
 obtain ⟨_, (h₁ : StateT.run (array _ 8) 8 = _), rfl⟩ := @takes_words x.bytes.toArray _ hw 8 _ head
 unfold readOuter
 rw [run_ok (run_seek 8 0), run_ok h₁, run_ok (run_seek _ _)]
 refine Takes.run ?_ tail
 refine (takes_words hv).bind ?_
 rintro _ rfl
 refine (Takes.many fun dep hm => takes_dependency (x.lengths dep hm)).last ?_
 rintro _ rfl
 rw [map_id']
 exact congrArg (fun bs => { x.parts with trailer := bs }) trailer.symm

end Wrapped

open Wrapped in
/-- An optimized file is given back without the gap before its dependencies, so as it was exactly if there is none. -/
theorem wrapped_reproduced_iff {x : Wrapped} {recode : Bool} {d : File} (few : x.bytes.length < 2 ^ 32)
  (loaded : load true recode x.bytes = .ok d) :
  d.loadedBytes = .ok (x.around []) ∧ (d.loadedBytes = .ok x.bytes ↔ x.gap = []) := by
 obtain ⟨q, ho⟩ := run_readOuter few
 have magic : x.bytes.take 8 = x.magic := take_left' length_magic
 have inner : x.bytes.toArray.extract 40 (40 + x.dex.length) = x.dex.toArray := by
  have here : x.bytes.drop 40 = x.dex ++ (x.gap ++ (x.depBytes ++ x.rest)) := by
   rw [bytes, around, <- append_assoc]
   exact drop_left' (by simp [length_magic, length_words, words])
  simp [extract_eq_take_drop, here]
 have known : odexMagics.contains x.magic = true := contains_iff_mem.mpr x.known
 have from_parts : load true recode x.bytes =
   loadPlain { blank true recode x.bytes with outer := some x.parts, buffer := x.dex.toArray } := by
  rw [<- inner]
  unfold load
  simp only [blank, magic, known, Bool.and_self, if_true, ho]
  rfl
 have origin := (asRead_loadPlain (from_parts ▸ loaded) rfl).origin
 obtain ⟨ho, hm, hb, hp⟩ : d.odex = true ∧ d.magic = x.magic ∧ d.buffer = x.dex.toArray ∧ d.outer = some x.parts := by
  simpa [File.origin, File.blank, magic] using origin
 have dependencies : odexDependencies x.parts = x.depBytes := by
  have each : x.dependencies.flatMap (fun dep => Save.u32 dep.1.length ++ dep.1 ++ twenty dep.2) =
    x.dependencies.flatMap named := by
   refine flatMap_congr fun dep hm => ?_
   rw [twenty, (x.lengths dep hm).2, take_of_length_le (x.lengths dep hm).2.le, append_assoc]
   simp [named, Save.u32]
  exact congrArg _ each
 have written : d.loadedBytes = .ok (x.around []) := by
  simp only [loadedBytes, wrapped, ho, hp, hm, hb, if_true, dependencies]
  simp [around]
  rfl
 refine ⟨written, ?_⟩
 rw [written, Except.ok.injEq]
 refine ⟨fun same => ?_, fun none => by rw [bytes, none]⟩
 simpa [bytes, around] using congrArg length same

/-- A file that has only a head and a map that lists the head, wrapped with one dependency. -/
def headWrapped (gap : Bytes) : Wrapped where
 magic := [0x64, 0x65, 0x79, 0x0a, 0x30, 0x33, 0x36, 0]
 known := by decide
 dex := [0x64, 0x65, 0x78, 0x0a, 0x30, 0x33, 0x35, 0] ++ replicate 24 0 ++
  ofWords ([132, 112, 0x12345678, 0, 0, 112] ++ replicate 14 0 ++ [1, 0, 1, 0, 0])
 gap := gap
 modificationTime := 5
 crc := 6
 build := 7
 dependencies := [([0x61, 0x62], replicate 20 3)]
 count := by decide
 lengths := by decide
 auxOffset := 218
 auxLength := 2
 flags := 0
 padding := 0
 rest := [8, 9]

theorem head_reproduced : ∃ d, load true false (headWrapped []).bytes = .ok d ∧ d.loadedBytes = .ok (headWrapped []).bytes := by
 have ends : (load true false (headWrapped []).bytes).isOk = true := by decide +kernel
 obtain ⟨d, hd⟩ := Res.exists_of_isOk ends
 exact ⟨d, hd, (wrapped_reproduced_iff (by decide +kernel) hd).2.mpr rfl⟩

/-- Four bytes that bring the dependencies to a multiple of eight are lost. -/
theorem gap_lost : (headWrapped [0, 0, 0, 0]).bytes.length = 220 ∧
  (load true false (headWrapped [0, 0, 0, 0]).bytes >>= loadedBytes).map List.length = .ok 216 := by
 decide +kernel

end DexLens.Dex
