import DexLens.Digest
import DexLens.Dex.Loader
import DexLens.Word

/-! # Writing a file

Items are laid out anew in the order of the map. Then each is written with the offsets it holds replaced by the new
ones. What an offset points to is remembered from loading.
-/

namespace DexLens.Dex

open Bytes EncodedValue List Res

/-- A computation on a file that may fail; what it changed before stays changed. -/
abbrev FileM := ExceptT Fault (StateM File)

namespace File

variable (d : File) (off : Nat)

abbrev Target := Place

def standing (p : Place) : Res Nat :=
 match p.item, d.items[p.entry]? with
 | none, some m => .ok m.place
 | some i, some m => opt .beyond ((m.blob.listed.bind (·[i]?)).map (·.2))
 | _, none => .error .noKey

def sectionStart : Content -> Res Nat
 | .header h => .ok h.offset
 | .typeIds off _ | .protoIds off _ | .fieldIds off _ | .methodIds off _ | .classDefs off _
 | .code off _ | .debugInfo off _ => .ok off
 | .mapList => .ok d.mapOff
 | _ => .error .noPart

/-- The new value of an offset: where the item that stood there stands now; zero stays. -/
def relocated : Res Nat := do
 if off = 0 then return 0
 d.standing (<- opt .noKey (d.places.lookup off))

def relocatedText : Res Nat := do
 if off = 0 then return 0
 let (entry, item) <- opt .noKey (d.texts.lookup off)
 d.standing ⟨entry, item⟩

def entryOffset (entry : Nat) (m : MapItem) : Res Nat := do
 let none := m.blob.listed | d.standing ⟨entry, some 0⟩
 d.sectionStart m.blob

end File

namespace Save

open File

variable (entry : Nat) (t : Target)
variable (n : Nat) (ps : List (Nat × Nat)) (slots : List Slot) (entry i : Nat) (c : ClassDef) (h : Header) (off : Nat)

def ask {α : Type} (f : File -> Res α) : FileM α := do
 match f (<- get) with
 | .ok a => return a
 | .error e => throw e

def u32 : Bytes := ofNatLE 4 n
def u16 : Bytes := ofNatLE 2 n

def mapBytes : FileM Bytes := do
 let count := (<- get).items.size
 let rows <- (range count).mapM fun i => do
  let m := (<- get).items.getD i default
  let off <- ask (·.entryOffset i m)
  modify fun d => { d with items := d.items.modify i fun m => { m with offset := off } }
  return u16 m.code ++ u16 m.unused ++ u32 m.size ++ u32 off
 return u32 (<- get).mapSize ++ rows.flatten

def headerLinks : FileM (List Nat) := do
 let offs := [h.mapOff, h.stringIdsOff, h.typeIdsOff, h.protoIdsOff, h.fieldIdsOff, h.methodIdsOff,
  h.classDefsOff, h.dataOff]
 (offs.drop h.links.length).foldlM (fun links off => do
  let links := links ++ [<- ask fun d => opt .noKey (d.entries.lookup off)]
  modify fun d => d.setBlob entry (.header { h with links })
  return links) h.links

def linked (links : List Nat) (k : Nat) : FileM (Nat × Content) := do
 let entry := links.getD k 0
 return (entry, (<- get).items.getD entry default |>.blob)

def listStart (c : Content) : FileM (Nat × Nat) := match c.listed with
 | some xs => return (xs.size, <- ask (·.standing ⟨entry, some 0⟩))
 | none => throw .badKind

def headerBytes : FileM Bytes := do
 let links <- headerLinks entry h
 let update (f : Header -> Header) : FileM Unit := modify fun d =>
  if let some (.header h) := d.content? entry then d.setBlob entry (.header (f h)) else d
 let (_, c0) <- linked links 0
 let mapOff <- ask (·.sectionStart c0)
 update fun h => { h with mapOff }
 let (e1, c1) <- linked links 1
 let some xs := c1.listed | throw .badKind
 update fun h => { h with stringIdsSize := xs.size }
 let (_, stringIdsOff) <- listStart e1 c1
 update fun h => { h with stringIdsOff }
 let (_, c2) <- linked links 2
 let .typeIds off xs := c2 | throw .noPart
 update fun h => { h with typeIdsSize := xs.size, typeIdsOff := off }
 let (_, c3) <- linked links 3
 let .protoIds off xs := c3 | throw .noPart
 update fun h => { h with protoIdsSize := xs.size, protoIdsOff := off }
 let (_, c4) <- linked links 4
 let .fieldIds off xs := c4 | throw .noPart
 update fun h => { h with fieldIdsSize := xs.size, fieldIdsOff := off }
 let (_, c5) <- linked links 5
 let .methodIds off xs := c5 | throw .noPart
 update fun h => { h with methodIdsSize := xs.size, methodIdsOff := off }
 let (_, c6) <- linked links 6
 let .classDefs off xs := c6 | throw .noPart
 update fun h => { h with classDefsSize := xs.size, classDefsOff := off }
 let (e7, c7) <- linked links 7
 let (_, dataOff) <- listStart e7 c7
 update fun h => { h with dataOff }
 let some (.header h) := (<- get).content? entry | throw .noPart
 if h.checksum < 0 then throw .cutOff
 return ofNatLE 8 h.magic ++ u32 h.checksum.toNat ++ h.sig ++
  ofWords [h.fileSize, h.headerSize, h.endianTag, h.linkSize, h.linkOff, h.mapOff, h.stringIdsSize,
   h.stringIdsOff, h.typeIdsSize, h.typeIdsOff, h.protoIdsSize, h.protoIdsOff, h.fieldIdsSize,
   h.fieldIdsOff, h.methodIdsSize, h.methodIdsOff, h.classDefsSize, h.classDefsOff, h.dataSize,
   h.dataOff]

def moved (offs : List Nat) : FileM (List Nat) := offs.mapM fun off => ask (·.relocated off)

def pairBytes : Bytes := ps.flatMap fun (a, b) => u32 a ++ u32 b

def movedPairs : FileM (List (Nat × Nat)) := ps.mapM fun (i, off) => return (i, <- ask (·.relocated off))

def movedClass : FileM ClassDef := do
 let interfacesOff <- ask (·.relocated c.interfacesOff)
 let annotationsOff <- ask (·.relocated c.annotationsOff)
 let dataOff <- ask (·.relocated c.dataOff)
 let valuesOff <- ask (·.relocated c.valuesOff)
 return { c with interfacesOff, annotationsOff, dataOff, valuesOff }

def classBytes : Bytes :=
 ofWords [c.classIdx, c.flags, c.superIdx, c.interfacesOff, c.sourceIdx, c.annotationsOff, c.dataOff, c.valuesOff]

def movedMethod (codes : Array CodeItem) (m : DexMethod) : DexMethod :=
 { m with codeOff := (m.code.bind (codes[·]?)).elim m.codeOff (·.start) }

def movedMembers (c : ClassData) : FileM ClassData := do
 let codes := (<- get).codeItems
 return { c with methods := c.methods.map (movedMethod codes) }

def updatedMembers (xs : Array ClassData) : FileM ClassData := do
 let x <- movedMembers (xs.getD i default)
 modify (·.setBlob entry (.classData (xs.setIfInBounds i x)))
 return x

def itemBytes : Content -> FileM Bytes
 | .stringIds xs => do
  let x := xs.getD i default
  let dataOff <- ask (·.relocatedText x.dataOff)
  modify fun d => d.setBlob entry (.stringIds (xs.setIfInBounds i { x with dataOff }))
  return u32 dataOff
 | .typeLists xs => do
  let x := xs.getD i default
  return x.pad ++ u32 x.types.length ++ x.types.flatMap u16
 | .noteRefs xs => do
  let x := xs.getD i default
  let entries <- moved x.entries
  modify fun d => d.setBlob entry (.noteRefs (xs.setIfInBounds i { x with entries }))
  return u32 entries.length ++ ofWords entries
 | .noteSets xs => do
  let x := xs.getD i default
  let entries <- moved x.entries
  modify fun d => d.setBlob entry (.noteSets (xs.setIfInBounds i { x with entries }))
  return u32 entries.length ++ ofWords entries
 | .classData xs => return (<- updatedMembers entry i xs).raw
 | .stringData xs => return (xs.getD i default).raw
 | .annotations xs => return (xs[i]?).elim [] AnnotationItem.raw
 | .encodedArrays xs => return (xs[i]?).elim [] (rawArray ·.values)
 | .noteDirs xs => do
  let x := xs.getD i default
  let classOff <- ask (·.relocated x.classOff)
  let fields <- movedPairs x.fields
  let methods <- movedPairs x.methods
  let parameters <- movedPairs x.parameters
  modify fun d => d.setBlob entry
   (.noteDirs (xs.setIfInBounds i { x with classOff, fields, methods, parameters }))
  return ofWords [classOff, fields.length, methods.length, parameters.length] ++
   pairBytes fields ++ pairBytes methods ++ pairBytes parameters
 | _ => return []

def codeBytes (entry off : Nat) (xs : Array CodeItem) : FileM Bytes := do
 let parts <- (range xs.size).mapM fun i => do
  let x := ((<- get).content? entry).elim default fun
   | .code _ xs => xs.getD i default
   | _ => default
  let (bs, x) <- ask fun _ => x.write
  modify fun d =>
   if let some (.code _ xs) := d.content? entry then d.setBlob entry (.code off (xs.setIfInBounds i x)) else d
  return bs
 return parts.flatten

def sectionBytes : Content -> FileM Bytes
 | .header h => headerBytes entry h
 | .typeIds _ xs => return xs.toList.flatMap (u32 ·.descriptorIdx)
 | .protoIds off xs => do
  let ps <- xs.toList.mapM fun p => do return { p with parametersOff := <- ask (·.relocated p.parametersOff) }
  modify (·.setBlob entry (.protoIds off ps.toArray))
  return ps.flatMap fun p => ofWords [p.shortyIdx, p.returnIdx, p.parametersOff]
 | .fieldIds _ xs => return xs.toList.flatMap fun f => u16 f.classIdx ++ u16 f.typeIdx ++ u32 f.nameIdx
 | .methodIds _ xs => return xs.toList.flatMap fun m => u16 m.classIdx ++ u16 m.protoIdx ++ u32 m.nameIdx
 | .classDefs off xs => do
  let cs <- xs.toList.mapM movedClass
  modify (·.setBlob entry (.classDefs off cs.toArray))
  return cs.flatMap classBytes
 | .mapList => mapBytes
 | .code off xs => codeBytes entry off xs
 | .debugInfo _ raw => return raw
 | _ => return []

def bytesOf : FileM Bytes := do
 match (<- get).content? t.entry, t.item with
 | some c, some i => itemBytes t.entry i c
 | some c, none => sectionBytes t.entry c
 | none, _ => return []

def lengthOf : FileM Nat := do
 match (<- get).content? t.entry, t.item with
 | some (.code _ xs), none =>
  let sizes <- xs.toList.mapM fun c => ask fun _ => c.size
  return Total.ofNats sizes
 | some (.classData xs), some i => return (<- updatedMembers t.entry i xs).length
 | some (.annotations xs), some i => return (xs[i]?).elim 0 (1 + ·.body.length)
 | some (.encodedArrays xs), some i => return (xs[i]?).elim 0 (arrayLength ·.values)
 | _, _ => return (<- bytesOf t).length

def place (d : File) : File :=
 match d.content? t.entry, t.item with
 | some .mapList, none => { d with mapOff := off }
 | _, item => d.modifyContent t.entry (placed item)
where
 placed : Option Nat -> Content -> Content
  | some i, .stringIds xs => .stringIds (xs.modify i ({ · with offset := off }))
  | some i, .typeLists xs => .typeLists (xs.modify i ({ · with offset := off }))
  | some i, .noteRefs xs => .noteRefs (xs.modify i ({ · with offset := off }))
  | some i, .noteSets xs => .noteSets (xs.modify i ({ · with offset := off }))
  | some i, .classData xs => .classData (xs.modify i ({ · with offset := off }))
  | some i, .stringData xs => .stringData (xs.modify i ({ · with offset := off }))
  | some i, .annotations xs => .annotations (xs.modify i ({ · with offset := off }))
  | some i, .encodedArrays xs => .encodedArrays (xs.modify i ({ · with offset := off }))
  | some i, .noteDirs xs => .noteDirs (xs.modify i ({ · with offset := off }))
  | none, .header h => .header { h with offset := off }
  | none, .typeIds _ xs => .typeIds off xs
  | none, .protoIds _ xs => .protoIds off xs
  | none, .fieldIds _ xs => .fieldIds off xs
  | none, .methodIds _ xs => .methodIds off xs
  | none, .classDefs _ xs => .classDefs off xs
  | none, .code _ xs => .code off xs
  | none, .debugInfo _ raw => .debugInfo off raw
  | _, c => c

def align4 : Nat := if n % 4 = 0 then n else n + (4 - n % 4)

structure Slot where
 dst : Target
 (start length : Nat)

/-- Plan one section from an offset on: the slots, in order, and the offset after it. -/
def planSection (entry base : Nat) (c : Content) : FileM (List Slot × Nat) := do
 match c.listed with
 | some xs =>
  let isDirectory := if let .noteDirs _ := c then true else false
  let (slots, base, used) <- (range xs.size).foldlM (fun (slots, base, used) i => do
   let base := if isDirectory then align4 base else base
   let t := ⟨entry, some i⟩
   let n <- lengthOf t
   return (slots ++ [⟨t, base + used, n⟩], base, used + n)) (([] : List Slot), base, 0)
  if xs.isEmpty then throw .beyond
  return (slots, base + used)
 | none =>
  let isMap := if let .mapList := c then true else false
  let base := if isMap then align4 base else base
  let t := ⟨entry, none⟩
  let n <- lengthOf t
  return ([⟨t, base, n⟩], base + n)

def plan : FileM (List Slot × Nat) := do
 let count := (<- get).items.size
 (range count).foldlM (fun (slots, base) entry => do
  let (more, next) <- planSection entry base ((<- get).items.getD entry default).blob
  return (slots ++ more, next)) (([] : List Slot), 0)

def lengthAt : Nat := slots.foldl (fun acc s => if s.start = off then s.length else acc) 0

def writeAll : FileM Bytes := do
 let (out, _) <- slots.foldlM (fun (out, last) s => do
  let bs <- bytesOf s.dst
  let gap := replicate (s.start - last) 0
  return (bs.reverse ++ gap ++ out, s.start + lengthAt slots s.start)) (([] : Bytes), 0)
 return out.reverse

def stamp (bs : Bytes) : Bytes :=
 let bs := bs.take 12 ++ Digest.sha1 (bs.drop 32) ++ bs.drop 32
 bs.take 8 ++ u32 (Digest.adler32 (bs.drop 12)) ++ bs.drop 12

end Save

namespace File

open Save

def setFileSize (size : Nat) : FileM Unit := do
 let d <- get
 let some entry := d.items.findIdx? (·.kind = .header) | throw .noPart
 let some (.header h) := d.content? entry | throw .noPart
 set (d.setBlob entry (.header { h with fileSize := size }))

def savePlain : FileM Bytes := do
 if (<- get).items.isEmpty then throw .noPart
 let (slots, size) <- plan
 setFileSize size
 slots.forM fun s => modify (place s.dst s.start)
 return stamp (<- writeAll slots)

def odexHeader (o : OdexParts) : Bytes :=
 ofWords [o.dexOffset, o.dexLength, o.depsOffset, o.depsLength, o.auxOffset, o.auxLength, o.flags, o.padding]

def twenty (bs : Bytes) : Bytes := bs.take 20 ++ replicate (20 - bs.length) 0

def odexDependencies (o : OdexParts) : Bytes :=
 ofWords [o.modificationTime, o.crc, o.build, o.count] ++
  o.dependencies.flatMap fun (name, sum) => u32 name.length ++ name ++ twenty sum

def wrapped (d : File) (inner : Bytes) : Res Bytes := do
 let some o := d.outer | .error .noPart
 .ok (d.magic ++ odexHeader o ++ inner ++ odexDependencies o ++ o.trailer)

def save : FileM Bytes := do
 let bs <- savePlain
 if (<- get).odex then ask (·.wrapped bs) else return bs

def loadedBytes (d : File) : Res Bytes := if d.odex then d.wrapped d.buffer.toList else .ok d.buffer.toList

end File

end DexLens.Dex
