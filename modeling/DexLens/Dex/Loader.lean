import DexLens.Dex.File

/-! # Loading a file

Sections are read in the order of the map; then the names that items show are looked up.
-/

namespace DexLens.Dex

open Reader

/-- The offsets of the items of a section that is a list, each with the place it is known by. -/
def Content.listed : Content -> Option (Array (Nat × Nat))
 | .stringIds xs => some (xs.map fun x => (x.offset, x.offset))
 | .typeLists xs => some (xs.map fun x => (x.offset, x.start))
 | .noteRefs xs | .noteSets xs | .classData xs
 | .stringData xs | .annotations xs | .encodedArrays xs
 | .noteDirs xs => some (xs.map fun x => (x.offset, x.offset))
 | _ => none

def Content.read (d : File) (kind : SectionKind) (size : Nat) : Reader Content := do
 let buf := d.buffer
 let offset <- pos
 match kind with
 | .header => return .header (<- Header.read buf)
 | .stringIds => return .stringIds (<- array (StringId.read buf) size)
 | .typeIds => return .typeIds offset (<- array (TypeId.read buf) size)
 | .protoIds => return .protoIds offset (<- array (ProtoId.read buf) size)
 | .fieldIds => return .fieldIds offset (<- array (FieldId.read buf) size)
 | .methodIds => return .methodIds offset (<- array (MethodId.read buf) size)
 | .classDefs => return .classDefs offset (<- array (ClassDef.read buf) size)
 | .mapList => return .mapList
 | .typeLists => return .typeLists (<- array (TypeList.read buf) size)
 | .noteRefs => return .noteRefs (<- array (AnnotationSetRefs.read buf) size)
 | .noteSets => return .noteSets (<- array (AnnotationSet.read buf) size)
 | .classData => return .classData (<- array (ClassData.read buf) size)
 | .code => return .code offset (<- array (CodeItem.read buf d.odex) size)
 | .stringData => return .stringData (<- array (StringData.read buf) size)
 | .debugInfo => return .debugInfo offset []
 | .annotations => return .annotations (<- array (AnnotationItem.read buf d.valueTables) size)
 | .encodedArrays => return .encodedArrays (<- array (EncodedArrayItem.read buf d.valueTables) size)
 | .noteDirs => return .noteDirs (<- array (AnnotationDirectory.read buf) size)

namespace File

variable (d : File) (c : ClassDef) (entry : Nat) (buf : Buffer) (odex recode : Bool) (blob : Bytes)

def addSection (m : MapItem) : File :=
 let entry := d.items.size
 let d := { d with
  items := d.items.push m
  places := (m.place, ⟨entry, none⟩) :: d.places
  entries := (m.offset, entry) :: d.entries }
 match m.blob.listed with
 | some offs =>
  offs.toList.zipIdx.foldl (fun d ((offset, known), i) =>
   { d with
    offsets := d.offsets.push offset
    places := (known, ⟨entry, i⟩) :: d.places
    texts := if m.kind = .stringData then (offset, entry, i) :: d.texts else d.texts }) d
 | none => { d with offsets := d.offsets.push m.offset }

def loadMap : Nat -> File -> Reader File
 | 0, d => return d
 | n + 1, d => do
  let place <- pos
  let code <- u16 d.buffer
  let unused <- u16 d.buffer
  let size <- u32 d.buffer
  let offset <- u32 d.buffer
  seek offset
  match SectionKind.ofCode? code with
  | none => throw .noKey
  | some kind =>
   let blob <- Content.read d kind size
   seek (place + 12)
   loadMap n (d.addSection ⟨place, code, kind, unused, size, offset, blob⟩)

def modifyContent (f : Content -> Content) : File :=
 { d with items := d.items.modify entry fun m => { m with blob := f m.blob } }

def setBlob (blob : Content) : File := d.modifyContent entry fun _ => blob

def adjust (kind : SectionKind) (f : Content -> Content) : File :=
 match d.homeIndex? kind with
 | some entry => d.modifyContent entry f
 | none => d

def loadField (f : DexField) : Res DexField := do
 let names <- d.fieldSigs f.idx
 match names.type with
 | some t => return { f with cls := names.cls, name := names.name, type := t }
 | none => throw .badKind

/-- The position of the code that starts at an offset; the last one if there are several. -/
def codeAt? (off : Nat) : Option Nat :=
 let xs := d.codeItems
 (List.range xs.size).foldl (fun acc i =>
  match xs[i]? with
  | some c => if c.start = off then some i else acc
  | none => acc) none

def loadMethod (m : DexMethod) : Res DexMethod := do
 let names <- d.methodSigs m.idx
 let desc <- match names.proto with
  | .parts (some p) (some r) => pure (p ++ r)
  | .whole s => pure s
  | _ => throw .badKind
 return { m with
  cls := names.cls, name := names.name, desc := desc, code := d.codeAt? m.codeOff }

def loadClassData (c : ClassData) : Res ClassData := do
 let fields <- c.fields.mapM d.loadField
 let methods <- c.methods.mapM d.loadMethod
 return { c with fields, methods }

def modifyData (i : Nat) (f : ClassData -> ClassData) : File :=
 d.adjust .classData fun
  | .classData xs => .classData (xs.modify i f)
  | other => other

/-- Give the first static fields their constants, unless there are more constants than fields. -/
def withInitialValues (c : ClassData) (values : List EncodedValue) : ClassData :=
 if values.length ≤ c.staticCount then
  { c with fields := values.zipIdx.foldl (fun fs (v, i) => fs.modify i fun f => { f with init := v }) c.fields }
 else c

def loadInterfaces : Res (Option String × File) :=
 if c.interfacesOff ≠ 0 then d.typeListAt c.interfacesOff else .ok (c.interfaces, d)

def loadMembers : Res (Option Nat × File) :=
 if c.dataOff ≠ 0 then do
  let xs <- d.classData
  match xs.findIdx? (·.offset = c.dataOff) with
  | none => throw .badKind
  | some i =>
   let loaded <- d.loadClassData (xs.getD i default)
   return (i, d.modifyData i fun _ => loaded)
 else .ok (c.data, d)

def loadValues (data : Option Nat) : Res (Option Nat × File) :=
 if c.valuesOff ≠ 0 then do
  let arrays <- d.encodedArrays
  let found := arrays.findIdx? (·.offset = c.valuesOff)
  match data with
  | none => return (found, d)
  | some i =>
   let a <- .opt .noPart (found.bind (arrays[·]?))
   let xs <- d.classData
   return (found, d.modifyData i fun _ => withInitialValues (xs.getD i default) a.values)
 else .ok (c.values, d)

def loadClassDef : Res (ClassDef × File) := do
 let name <- d.type c.classIdx
 let superName <- d.type c.superIdx
 let (interfaces, d) <- d.loadInterfaces c
 let (data, d) <- d.loadMembers c
 let (values, d) <- d.loadValues c data
 return ({ c with name := name, superName := superName, interfaces, data, values }, d)

def loadClassDefs (d : File) : List ClassDef -> Res (List ClassDef × File)
 | [] => return ([], d)
 | c :: cs => do
  let (c, d) <- d.loadClassDef c
  let (cs, d) <- loadClassDefs d cs
  return (c :: cs, d)

def loadProto (p : ProtoId) : Res (ProtoId × File) := do
 let shorty <- d.string p.shortyIdx
 let result <- d.type p.returnIdx
 let (parameters, d) <- d.typeListAt p.parametersOff
 return ({ p with shorty := shorty, result := result, parameters }, d)

def loadProtos (d : File) : List ProtoId -> Res (List ProtoId × File)
 | [] => return ([], d)
 | p :: ps => do
  let (p, d) <- d.loadProto p
  let (ps, d) <- loadProtos d ps
  return (p :: ps, d)

def loadMethodId (m : MethodId) : Res MethodId := do
 let cls <- d.type m.classIdx
 let (p, r) <- d.proto m.protoIdx
 return { m with names := ⟨cls, <- d.string m.nameIdx, .parts p r⟩ }

def loadFieldId (f : FieldId) : Res FieldId :=
 return { f with names := ⟨<- d.type f.classIdx, <- d.type f.typeIdx, <- d.string f.nameIdx⟩ }

def loadEntry : Res File := do
 match d.content? entry with
 | some (.typeIds off xs) =>
  let xs <- xs.mapM fun t => do return { t with value := some (<- d.string t.descriptorIdx) }
  return d.setBlob entry (.typeIds off xs)
 | some (.protoIds off xs) =>
  let (ps, d) <- d.loadProtos xs.toList
  return d.setBlob entry (.protoIds off ps.toArray)
 | some (.fieldIds off xs) => return d.setBlob entry (.fieldIds off (<- xs.mapM d.loadFieldId))
 | some (.methodIds off xs) => return d.setBlob entry (.methodIds off (<- xs.mapM d.loadMethodId))
 | some (.classDefs off xs) =>
  let (cs, d) <- d.loadClassDefs xs.toList
  return d.setBlob entry (.classDefs off cs.toArray)
 | some (.classData xs) => return d.setBlob entry (.classData (<- xs.mapM d.loadClassData))
 | some (.debugInfo off _) =>
  let next := (d.nextOffset off).toNat
  return d.setBlob entry (.debugInfo off (d.buffer.extract off next).toList)
 | _ => return d

def loadPlain : Res File := do
 let (lead, _) <- (Header.read d.buffer).run 0
 let d := { d with lead }
 if lead.mapOff = 0 then return d
 let readMap : Reader File := do
  seek lead.mapOff
  let size <- u32 d.buffer
  loadMap size { d with mapOff := lead.mapOff, mapSize := size }
 let (d, _) <- readMap.run 0
 (List.range d.items.size).foldlM loadEntry d

def blank : File :=
 { (default : File) with
  odex, recode, magic := blob.take 8, buffer := blob.toArray, mapOff := 0, mapSize := 0, items := #[] }

def odexMagics : List Bytes := [[0x64, 0x65, 0x79, 0x0a, 0x30, 0x33, 0x35, 0], [0x64, 0x65, 0x79, 0x0a, 0x30, 0x33, 0x36, 0]]

def readDependency : Reader (Bytes × Bytes) := return (<- take buf (<- u32 buf), <- take buf 20)

def readOuter : Reader OdexParts := do
 seek 8
 let ws <- array (u32 buf) 8
 let w i := ws.getD i 0
 seek (w 2)
 let vs <- array (u32 buf) 4
 let v i := vs.getD i 0
 let deps <- many (readDependency buf) (v 3)
 return ⟨w 0, w 1, w 2, w 3, w 4, w 5, w 6, w 7, v 0, v 1, v 2, v 3, deps, (buf.extract (w 2 + w 3) buf.size).toList⟩

def load : Res File := do
 let d := blank odex recode blob
 if odex && odexMagics.contains d.magic then
  let (outer, _) <- (readOuter d.buffer).run 0
  let inner := d.buffer.extract outer.dexOffset (outer.dexOffset + outer.dexLength)
  loadPlain { d with outer := outer, buffer := inner }
 else loadPlain d

end File

end DexLens.Dex
