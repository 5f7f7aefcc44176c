import DexLens.Code.Sweep
import DexLens.Dex.Value

/-! # The items of a file

Items remember where they stand, and the names that they show.
-/

namespace DexLens.Dex

open Bytes Code EncodedValue Leb128 Reader

variable (buf : Buffer) (c : CodeItem) (t : ValueTables) (s : StringData)

/-- The eight links are the positions in the map of the items that the offsets point to, kept once they were followed. -/
structure Header where
 (offset magic : Nat)
 checksum : Int
 sig : Bytes
 (fileSize headerSize endianTag linkSize linkOff mapOff stringIdsSize stringIdsOff typeIdsSize typeIdsOff protoIdsSize protoIdsOff fieldIdsSize fieldIdsOff methodIdsSize methodIdsOff classDefsSize classDefsOff dataSize dataOff : Nat)
 links : List Nat
 deriving Inhabited

def Header.read : Reader Header := do
 let offset <- pos
 let magic <- unsigned buf 8
 let checksum <- signed buf 4
 let sig <- exactly buf 20
 let ws <- array (u32 buf) 20
 let w i := ws.getD i 0
 return {
  offset, magic, checksum, sig
  fileSize := w 0, headerSize := w 1, endianTag := w 2, linkSize := w 3, linkOff := w 4
  mapOff := w 5, stringIdsSize := w 6, stringIdsOff := w 7, typeIdsSize := w 8, typeIdsOff := w 9
  protoIdsSize := w 10, protoIdsOff := w 11, fieldIdsSize := w 12, fieldIdsOff := w 13
  methodIdsSize := w 14, methodIdsOff := w 15, classDefsSize := w 16, classDefsOff := w 17
  dataSize := w 18, dataOff := w 19, links := [] }

structure StringId where
 (offset dataOff : Nat)
 deriving Inhabited

def StringId.read : Reader StringId := return ⟨<- pos, <- u32 buf⟩

structure TypeId where
 descriptorIdx : Nat
 value : Option String

def TypeId.read : Reader TypeId := return ⟨<- u32 buf, none⟩

structure ProtoId where
 (shortyIdx returnIdx parametersOff : Nat)
 (shorty result parameters : Option String)

def ProtoId.read : Reader ProtoId := return ⟨<- u32 buf, <- u32 buf, <- u32 buf, none, none, none⟩

structure FieldId where
 (classIdx typeIdx nameIdx : Nat)
 names : FieldSig
 deriving Inhabited

def FieldId.read : Reader FieldId := return ⟨<- u16 buf, <- u16 buf, <- u32 buf, ⟨none, none, none⟩⟩

structure MethodId where
 (classIdx protoIdx nameIdx : Nat)
 names : Sigs
 deriving Inhabited

def MethodId.read : Reader MethodId := return ⟨<- u16 buf, <- u16 buf, <- u32 buf, ⟨none, none, .unknown⟩⟩

/-- `data` and `values` are the positions of class data and constants. -/
structure ClassDef where
 (classIdx flags superIdx interfacesOff sourceIdx annotationsOff dataOff valuesOff : Nat)
 (name superName interfaces : Option String)
 (data values : Option Nat)
 deriving Inhabited

def ClassDef.read : Reader ClassDef := do
 let ws <- array (u32 buf) 8
 let w i := ws.getD i 0
 return ⟨w 0, w 1, w 2, w 3, w 4, w 5, w 6, w 7, none, none, none, none, none⟩

structure TypeList where
 offset : Nat
 pad : Bytes
 types : List Nat
 deriving Inhabited

/-- A list that does not start at a multiple of four is preceded by as many bytes as its offset is past one. -/
def TypeList.read : Reader TypeList := do
 let offset <- pos
 return ⟨offset, <- take buf (offset % 4), <- many (u16 buf) (<- u32 buf)⟩

def TypeList.start (l : TypeList) : Nat := l.offset + l.pad.length

structure AnnotationSet where
 offset : Nat
 entries : List Nat
 deriving Inhabited

def AnnotationSet.read : Reader AnnotationSet := return ⟨<- pos, <- many (u32 buf) (<- u32 buf)⟩

structure AnnotationSetRefs where
 offset : Nat
 entries : List Nat
 deriving Inhabited

def AnnotationSetRefs.read : Reader AnnotationSetRefs := return ⟨<- pos, <- many (u32 buf) (<- u32 buf)⟩

/-- The annotations of a class and its members: index of the member and offset. -/
structure AnnotationDirectory where
 (offset classOff : Nat)
 (fields methods parameters : List (Nat × Nat))
 deriving Inhabited

def AnnotationDirectory.read : Reader AnnotationDirectory := do
 let offset <- pos
 let classOff <- u32 buf
 let nf <- u32 buf
 let nm <- u32 buf
 let np <- u32 buf
 let pair := return (<- u32 buf, <- u32 buf)
 return ⟨offset, classOff, <- many pair nf, <- many pair nm, <- many pair np⟩

structure AnnotationItem where
 (offset visibility : Nat)
 body : AnnotationBody

def AnnotationItem.read : Reader AnnotationItem :=
 return ⟨<- pos, <- u8 buf, <- readAnnotationBody buf (uleb buf) t (fuelFor buf)⟩

def AnnotationItem.raw (a : AnnotationItem) : Bytes := .ofNat a.visibility :: a.body.raw

structure EncodedArrayItem where
 offset : Nat
 values : List EncodedValue

def EncodedArrayItem.read : Reader EncodedArrayItem := return ⟨<- pos, <- readArray buf (uleb buf) t (fuelFor buf)⟩

structure StringData where
 (offset utf16Size : Nat)
 data : Bytes
 deriving Inhabited

def throughZero : Bytes -> Option Bytes
 | [] => none
 | b :: bs => if b = 0 then some [b] else (throughZero bs).map (b :: ·)

/-- The declared size is taken as a number of bytes; when no zero stands there, bytes up to the next zero are counted
    into the size. -/
def StringData.read : Reader StringData := do
 let offset <- pos
 let size <- uleb buf
 let data <- take buf (size + 1)
 match data.getLast? with
 | none => throw .beyond
 | some 0 => return ⟨offset, size, data⟩
 | some _ =>
  let p <- pos
  match throughZero (buf.extract p buf.size).toList with
  | none => throw .endless
  | some more =>
   seek (p + more.length)
   return ⟨offset, size + more.length, data ++ more⟩

def StringData.text : String := toText s.data.dropLast

def StringData.raw : Bytes := writeU s.utf16Size ++ s.data

structure DexField where
 (idxDiff flags idx : Nat)
 (cls name type : Option String)
 init : Option EncodedValue
 deriving Inhabited

/-- A method that a class defines. `code` is the position of its code. -/
structure DexMethod where
 (idxDiff flags codeOff idx : Nat)
 (cls name desc : Option String)
 code : Option Nat
 notes : List String
 deriving Inhabited

def DexField.read : Reader DexField := return ⟨<- uleb buf, <- uleb buf, 0, none, none, none, none⟩

def DexMethod.read : Reader DexMethod :=
 return ⟨<- uleb buf, <- uleb buf, <- uleb buf, 0, none, none, none, none, []⟩

/-- Members are stored with the difference of their index to that of the member before. -/
def numbered {α : Type} (diff : α -> Nat) (set : α -> Nat -> α) : Nat -> List α -> List α
 | _, [] => []
 | prev, x :: xs => set x (diff x + prev) :: numbered diff set (diff x + prev) xs

def DexField.number : List DexField -> List DexField := numbered (·.idxDiff) (fun f idx => { f with idx }) 0

def DexMethod.number : List DexMethod -> List DexMethod := numbered (·.idxDiff) (fun m idx => { m with idx }) 0

/-- The members of a class. `fields` holds the static fields first, `methods` the direct ones. -/
structure ClassData where
 (offset staticCount directCount : Nat)
 fields : Array DexField
 methods : Array DexMethod
 deriving Inhabited

variable (buf : Buffer)

def ClassData.read : Reader ClassData := do
 let offset <- pos
 let ns <- uleb buf
 let ni <- uleb buf
 let nd <- uleb buf
 let nv <- uleb buf
 let statics <- many (DexField.read buf) ns
 let instances <- many (DexField.read buf) ni
 let directs <- many (DexMethod.read buf) nd
 let virtuals <- many (DexMethod.read buf) nv
 return {
  offset, staticCount := ns, directCount := nd
  fields := (DexField.number statics ++ DexField.number instances).toArray
  methods := (DexMethod.number directs ++ DexMethod.number virtuals).toArray }

def DexField.raw (f : DexField) : Bytes := writeU f.idxDiff ++ writeU f.flags

def DexMethod.raw (m : DexMethod) : Bytes :=
 writeU m.idxDiff ++ writeU m.flags ++ writeU m.codeOff

def ClassData.raw (c : ClassData) : Bytes :=
 writeU c.staticCount ++ writeU (c.fields.size - c.staticCount) ++
  writeU c.directCount ++ writeU (c.methods.size - c.directCount) ++
  c.fields.toList.flatMap DexField.raw ++ c.methods.toList.flatMap DexMethod.raw

/-- The number of bytes, as the sum over the numbers and the members. -/
def ClassData.length (c : ClassData) : Nat :=
 let counts := [c.staticCount, c.fields.size - c.staticCount, c.directCount, c.methods.size - c.directCount]
 let head := counts.foldl (fun n k => n + (writeU k).length) 0
 c.methods.toList.foldl (· + ·.raw.length) (c.fields.toList.foldl (· + ·.raw.length) head)

/-- A range of code, in units, guarded by the handler at an offset in the handler list. -/
structure TryItem where
 (start count handlerOff : Nat)

def TryItem.read : Reader TryItem := return ⟨<- u32 buf, <- u16 buf, <- u16 buf⟩

def TryItem.raw (t : TryItem) : Bytes := ofNatLE 4 t.start ++ ofNatLE 2 t.count ++ ofNatLE 2 t.handlerOff

/-- Handlers for exceptions by type, and the one for all others if the size is not positive. -/
structure CatchHandler where
 offset : Nat
 size : Int
 typed : List (Nat × Nat)
 catchAll : Option Nat

def CatchHandler.read : Reader CatchHandler := do
 let offset <- pos
 let size <- sleb buf
 let pair := return (<- uleb buf, <- uleb buf)
 let typed <- many pair size.natAbs
 if size ≤ 0 then return ⟨offset, size, typed, <- uleb buf⟩
 else return ⟨offset, size, typed, none⟩

def CatchHandler.raw (h : CatchHandler) : Bytes :=
 writeS h.size ++ h.typed.flatMap (fun (t, a) => writeU t ++ writeU a) ++ match h.catchAll with
  | some a => writeU a
  | none => []

structure CatchHandlers where
 offset : Nat
 entries : List CatchHandler

def CatchHandlers.read : Reader CatchHandlers :=
 return ⟨<- pos, <- many (CatchHandler.read buf) (<- uleb buf)⟩

def CatchHandlers.raw (h : CatchHandlers) : Bytes := writeU h.entries.length ++ h.entries.flatMap CatchHandler.raw

/-- `unitsShown` is the declared number of units, which writing the item back brings up to date; notes are kept by the
    number of the instruction. `reads` and `kept` tell of earlier readings. -/
structure CodeItem where
 /-- Bytes before the item up to a multiple of four. -/
 (leadIn start regs ins outs triesSize debugOff unitsShown units : Nat)
 bytes : Bytes
 padding : Option Nat
 tries : List TryItem
 handlers : Option CatchHandlers
 instrs : List Instr
 fault : Option Fault
 notes : List (Int × List String)
 reads : Nat := 0
 kept : List Instr := []
 deriving Inhabited

def CodeItem.read (odex : Bool) : Reader CodeItem := do
 let offset <- pos
 let leadIn := (4 - offset % 4) % 4
 let start := offset + leadIn
 seek start
 let regs <- u16 buf
 let ins <- u16 buf
 let outs <- u16 buf
 let triesSize <- u16 buf
 let debugOff <- u32 buf
 let units <- u32 buf
 let bytes <- take buf (units * 2)
 let padding <- if units % 2 = 1 then (do return some (<- u16 buf)) else pure none
 let tries <- many (TryItem.read buf) triesSize
 let handlers <- if triesSize > 0 then (do return some (<- CatchHandlers.read buf)) else pure none
 let (instrs, fault) := sweep odex units bytes 0
 return {
  leadIn, start, regs, ins, outs, triesSize, debugOff
  unitsShown := units, units, bytes, padding, tries, handlers, instrs, fault
  notes := [] }

def CodeItem.decoded : Res (List Instr) :=
 match c.fault with
 | some f => .error f
 | none => .ok c.instrs

def CodeItem.codeRaw : Res Bytes := return (<- c.decoded).flatMap Instr.raw

def CodeItem.size : Res Nat := do
 let code <- c.codeRaw
 let pad <- if c.unitsShown % 2 = 1 then (if c.padding.isSome then pure 2 else throw .noPart) else pure 0
 let guards := match c.handlers with
  | some h => if c.triesSize > 0 then 8 * c.tries.length + h.raw.length else 0
  | none => 0
 return c.leadIn + 16 + code.length + pad + guards

def CodeItem.write : Res (Bytes × CodeItem) := do
 let code <- c.codeRaw
 let units := code.length / 2 + code.length % 2
 let c := { c with unitsShown := units }
 let head := List.replicate c.leadIn 0 ++ ofNatLE 2 c.regs ++ ofNatLE 2 c.ins ++
  ofNatLE 2 c.outs ++ ofNatLE 2 c.triesSize ++ ofNatLE 4 c.debugOff ++ ofNatLE 4 units
 let guards := match c.handlers with
  | some h => if c.triesSize > 0 then c.tries.flatMap TryItem.raw ++ h.raw else []
  | none => []
 return (head ++ code ++ guards, c)

end DexLens.Dex
