import DexLens.Code.Operand
import DexLens.Dex.Item

/-! # A file and its tables

A file is the list of its sections in the order of its map. The names that items show are filled in after loading.
Looking something up that is out of range gives a text that says so.
-/

namespace DexLens.Dex

inductive SectionKind where
 | header | stringIds | typeIds | protoIds | fieldIds | methodIds | classDefs
 | mapList | typeLists | noteRefs | noteSets | classData | code | stringData
 | debugInfo | annotations | encodedArrays | noteDirs
 deriving DecidableEq

namespace SectionKind

def codes : List (Nat × SectionKind) :=
 [(0x0, header), (0x1, stringIds), (0x2, typeIds), (0x3, protoIds), (0x4, fieldIds), (0x5, methodIds),
  (0x6, classDefs), (0x1000, mapList), (0x1001, typeLists), (0x1002, noteRefs),
  (0x1003, noteSets), (0x2000, classData), (0x2001, code), (0x2002, stringData),
  (0x2003, debugInfo), (0x2004, annotations), (0x2005, encodedArrays), (0x2006, noteDirs)]

def ofCode? (n : Nat) : Option SectionKind := codes.lookup n

def title : SectionKind -> String
 | header => "TYPE_HEADER_ITEM"
 | stringIds => "TYPE_STRING_ID_ITEM"
 | typeIds => "TYPE_TYPE_ID_ITEM"
 | protoIds => "TYPE_PROTO_ID_ITEM"
 | fieldIds => "TYPE_FIELD_ID_ITEM"
 | methodIds => "TYPE_METHOD_ID_ITEM"
 | classDefs => "TYPE_CLASS_DEF_ITEM"
 | mapList => "TYPE_MAP_LIST"
 | typeLists => "TYPE_TYPE_LIST"
 | noteRefs => "TYPE_ANNOTATION_SET_REF_LIST"
 | noteSets => "TYPE_ANNOTATION_SET_ITEM"
 | classData => "TYPE_CLASS_DATA_ITEM"
 | code => "TYPE_CODE_ITEM"
 | stringData => "TYPE_STRING_DATA_ITEM"
 | debugInfo => "TYPE_DEBUG_INFO_ITEM"
 | annotations => "TYPE_ANNOTATION_ITEM"
 | encodedArrays => "TYPE_ENCODED_ARRAY_ITEM"
 | noteDirs => "TYPE_ANNOTATIONS_DIRECTORY_ITEM"

end SectionKind

inductive Content where
 | header (h : Header)
 | stringIds (xs : Array StringId)
 | typeIds (offset : Nat) (xs : Array TypeId)
 | protoIds (offset : Nat) (xs : Array ProtoId)
 | fieldIds (offset : Nat) (xs : Array FieldId)
 | methodIds (offset : Nat) (xs : Array MethodId)
 | classDefs (offset : Nat) (xs : Array ClassDef)
 | mapList
 | typeLists (xs : Array TypeList)
 | noteRefs (xs : Array AnnotationSetRefs)
 | noteSets (xs : Array AnnotationSet)
 | classData (xs : Array ClassData)
 | code (offset : Nat) (xs : Array CodeItem)
 | stringData (xs : Array StringData)
 | debugInfo (offset : Nat) (raw : Bytes)
 | annotations (xs : Array AnnotationItem)
 | encodedArrays (xs : Array EncodedArrayItem)
 | noteDirs (xs : Array AnnotationDirectory)
 deriving Inhabited

def Content.texts? : Content -> Option (Array StringData)
 | stringData xs => some xs
 | _ => none

structure MapItem where
 (place code : Nat)
 kind : SectionKind
 (unused size offset : Nat)
 blob : Content

instance : Inhabited MapItem := (⟨0, 0, .header, 0, 0, 0, default⟩)

/-- What an offset can point to: an entry of the map, or an item of a section. -/
structure Place where
 entry : Nat
 item : Option Nat

structure OdexParts where
 (dexOffset dexLength depsOffset depsLength auxOffset auxLength flags padding modificationTime crc build count : Nat)
 dependencies : List (Bytes × Bytes)
 trailer : Bytes

structure File where
 (odex recode : Bool)
 magic : Bytes
 buffer : Buffer
 outer : Option OdexParts
 lead : Header
 (mapOff mapSize : Nat)
 items : Array MapItem
 /-- What stands at an offset, the latest entry first. -/
 places : List (Nat × Place)
 /-- The entry of the map for an offset, the latest first. -/
 entries : List (Nat × Nat)
 /-- The text that stands at an offset, the latest first. -/
 texts : List (Nat × Nat × Nat)
 /-- The offsets of all items in the order in which they were found. -/
 offsets : Array Nat
 renamed : List (Int × String)
 /-- Lists of types that were shown before, by offset. -/
 typeListTexts : List (Nat × String)
 deriving Inhabited

def atPosition? {α : Type} (xs : Array α) (i : Int) : Option α :=
 if 0 ≤ i then xs[i.toNat]?
 else if 0 ≤ i + xs.size then xs[(i + xs.size).toNat]?
 else none

namespace File

variable (d : File) (kind : SectionKind) (idx : Int) (off entry : Nat)

def isOf : Bool := d.items[entry]?.any (·.kind = kind)

def sectionIndex? : Option Nat := (List.range d.items.size).reverse.find? (d.isOf kind)

def firstIndex? : Option Nat := (List.range d.items.size).find? (d.isOf kind)

def homeIndex? : Option Nat := if kind = .classDefs then d.firstIndex? kind else d.sectionIndex? kind

def content? : Option Content := d.items[entry]?.map (·.blob)

def latest? : Option Content := (d.sectionIndex? kind).bind d.content?

def managed : Res Content := .opt .noKey (d.latest? kind)

def firstOf? : Option Content := (d.firstIndex? kind).bind d.content?

def typeIds (d : File) : Res (Array TypeId) := do
 match <- d.managed .typeIds with
 | .typeIds _ xs => return xs
 | _ => throw .noKey

def stringIds (d : File) : Res (Array StringId) := do
 match <- d.managed .stringIds with
 | .stringIds xs => return xs
 | _ => throw .noKey

def protoIds (d : File) : Res (Array ProtoId) := do
 match <- d.managed .protoIds with
 | .protoIds _ xs => return xs
 | _ => throw .noKey

def fieldIds (d : File) : Res (Array FieldId) := do
 match <- d.managed .fieldIds with
 | .fieldIds _ xs => return xs
 | _ => throw .noKey

def methodIds (d : File) : Res (Array MethodId) := do
 match <- d.managed .methodIds with
 | .methodIds _ xs => return xs
 | _ => throw .noKey

def typeLists (d : File) : Res (Array TypeList) := do
 match <- d.managed .typeLists with
 | .typeLists xs => return xs
 | _ => throw .noKey

def classData (d : File) : Res (Array ClassData) := do
 match <- d.managed .classData with
 | .classData xs => return xs
 | _ => throw .noKey

def encodedArrays (d : File) : Res (Array EncodedArrayItem) := do
 match <- d.managed .encodedArrays with
 | .encodedArrays xs => return xs
 | _ => throw .noKey

def codeItems : Array CodeItem :=
 match d.latest? .code with
 | some (.code _ xs) => xs
 | _ => #[]

def textAt? : Option String := do
 let (entry, item) <- d.texts.lookup off
 return (<- (<- (d.content? entry).bind Content.texts?)[item]?).text

def invalidString : String := "AG:IS: invalid string"

def asciiForm (s : String) : String :=
 .join (s.toList.map fun c => if c.toNat < 128 then c.toString else Text.hexNat c.toNat)

def rawString : Res String := do
 match atPosition? (<- d.stringIds) idx with
 | none => return invalidString
 | some id => return (d.textAt? id.dataOff).getD invalidString

def string : Res String := do
 match d.renamed.lookup idx with
 | some s => return s
 | none =>
  match atPosition? (<- d.stringIds) idx with
  | none => return invalidString
  | some id =>
   match d.textAt? id.dataOff with
   | some s => return if d.recode then asciiForm s else s
   | none => return invalidString

def typeRef : Res Int := do
 match atPosition? (<- d.typeIds) idx with
 | some t => return t.descriptorIdx
 | none => return -1

def type (d : File) (idx : Int) : Res String := do
 let ref <- d.typeRef idx
 if ref = -1 then return "AG:ITI: invalid type" else d.string ref

def typeListText (l : TypeList) : Res String := return .join (<- l.types.mapM fun i : Nat => d.type i)

def typeListAt : Res (Option String × File) := do
 if off = 0 then return (some "()", d)
 match d.typeListTexts.lookup off with
 | some s => return (some s, d)
 | none =>
  match (<- d.typeLists).find? (·.start = off) with
  | some l =>
   let s := "(" ++ (<- d.typeListText l) ++ ")"
   return (s, { d with typeListTexts := (off, s) :: d.typeListTexts })
  | none => return (none, d)

def proto : Res (Option String × Option String) := do
 match atPosition? (<- d.protoIds) idx with
 | some p => return (p.parameters, p.result)
 | none => throw .noPart

def invalidField : FieldSig := ⟨"AG:IFI:invalid_class_name;", "(AG:IFI:invalid_type)", "AG:IFI:invalid_name"⟩

def invalidMethod : Sigs :=
 ⟨"AG:IMI:invalid_class_name;", "AG:IMI:invalid_name", .whole "()AG:IMI:invalid_proto"⟩

def fieldSigs : Res FieldSig := return (atPosition? (<- d.fieldIds) idx).elim invalidField (·.names)

def methodSigs : Res Sigs := return (atPosition? (<- d.methodIds) idx).elim invalidMethod (·.names)

def shown (s : Option String) : String := s.getD "None"

def methodRef : Res (Option String × Option String × String) := do
 match atPosition? (<- d.methodIds) idx with
 | none => return (some "AG:IMI:invalid_class_name;", some "AG:IMI:invalid_name", "(AG:IMI:invalid_descriptor)")
 | some m =>
  match m.names.proto with
  | .parts (some p) (some r) => return (m.names.cls, m.names.name, p ++ r)
  | _ => throw .badKind

def fieldRef : Res (Option String × Option String × Option String) := do
 match atPosition? (<- d.fieldIds) idx with
 | none => return ("AG:IFI:invalid_class_name;", "AG:IFI:invalid_name", "(AG:IFI:invalid_descriptor)")
 | some f => return (f.names.cls, f.names.name, f.names.type)

def valueTables : ValueTables where
 string := (d.rawString ·)
 type := (d.type ·)
 field := (d.fieldSigs ·)
 method := (d.methodSigs ·)

def codeTables : Code.Tables where
 string := (d.string ·)
 type := (d.type ·)
 field := fun i => do
  let f <- d.fieldSigs i
  return (shown f.cls, shown f.type, shown f.name)
 method := fun i => do
  let (c, n, p) <- d.methodRef i
  return (shown c, shown n, p)

/-- The offset of the first item listed that stands after an offset, or the offset itself. -/
def nextOffset (off : Int) : Int :=
 match d.offsets.find? (fun (o : Nat) => (o : Int) > off) with
 | some o => o
 | none => off

end File

end DexLens.Dex
