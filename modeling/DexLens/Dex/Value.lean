import DexLens.Fault
import DexLens.Leb128

/-! # Reading a file

Reading past the end yields fewer bytes; a fixed-width number then fails as cut off, a variable-length one for lack
of a byte.
-/

namespace DexLens.Dex

abbrev Buffer := Array UInt8

abbrev Reader := StateT Nat Res

namespace Reader

variable (buf : Buffer) (n : Nat)

def pos : Reader Nat := get

def seek (p : Nat) : Reader Unit := set p

/-- Take the next `n` bytes, fewer at the end of the file; the position moves on by `n`. -/
def take : Reader Bytes := do
 let p <- get
 set (p + n)
 return (buf.toList.drop p).take n

def exactly : Reader Bytes := do
 let bs <- take buf n
 if bs.length < n then throw .cutOff else return bs

def unsigned : Reader Nat := return Bytes.toNatLE (<- exactly buf n)

def signed : Reader Int := return Bytes.toIntLE (<- exactly buf n)

def u8 : Reader Nat := unsigned buf 1
def u16 : Reader Nat := unsigned buf 2
def u32 : Reader Nat := unsigned buf 4

def uleb : Reader Nat := do
 let p <- get
 let window := (buf.toList.drop p).take 5
 match Leb128.readUnsigned window with
 | some (v, rest) => set (p + (window.length - rest.length)); return v
 | none => throw .badKind

def sleb : Reader Int := do
 let b <- exactly buf 1
 match Leb128.readSigned b with
 | some (v, _) => return v
 | none => throw .cutOff

def many {α : Type} (r : Reader α) : Nat -> Reader (List α)
 | 0 => return []
 | n + 1 => return (<- r) :: (<- many r n)

def array {α : Type} (r : Reader α) (n : Nat) : Reader (Array α) := return (<- many r n).toArray

end Reader

end DexLens.Dex

/-! # Encoded values

The low five bits of the first byte tell the kind, the high three a size or a truth value. An index is looked up
when the value is read.
-/

namespace DexLens.Dex

open Leb128 Reader UInt8

/-- Class, type and name of a field, as far as they are known. -/
structure FieldSig where
 (cls type name : Option String)
 deriving Inhabited

inductive ProtoNames where
 | unknown
 | parts (params result : Option String)
 | whole (text : String)
 deriving Inhabited

/-- Class, name and prototype of a method, as far as they are known. -/
structure Sigs where
 (cls name : Option String)
 proto : ProtoNames
 deriving Inhabited

structure ValueTables where
 (string type : Nat -> Res String)
 field : Nat -> Res FieldSig
 method : Nat -> Res Sigs

inductive EncodedValue where
 /-- A number, or a floating-point number by its bits. -/
 | number (head : Nat) (raw : Bytes)
 | string (head : Nat) (raw : Bytes) (text : String)
 | type (head : Nat) (raw : Bytes) (text : String)
 | field (head : Nat) (raw : Bytes) (names : FieldSig)
 | method (head : Nat) (raw : Bytes) (names : Sigs)
 | array (head : Nat) (values : List EncodedValue)
 | annotated (head type : Nat) (elements : List (Nat × EncodedValue))
 | byte (head : Nat) (raw : Bytes)
 | null (head : Nat)
 | truth (head : Nat) (value : Bool)

structure AnnotationBody where
 type : Nat
 elements : List (Nat × EncodedValue)

namespace EncodedValue

variable (buf : Buffer) (v : EncodedValue) (vs : List EncodedValue)

def head : EncodedValue -> Nat
 | number h _ | string h _ _ | type h _ _ | field h _ _ | method h _ _ | array h _
 | annotated h _ _ | byte h _ | null h | truth h _ => h

def tag : Nat := v.head % 32

def arg : Nat := v.head / 32

/-- The number that some bytes are decoded to, whatever the kind of the value. -/
def decode (raw : Bytes) : Nat := raw.toNatLE

mutual

/-- Read a value. The numbers of variable length are read by `number`. -/
def readValue (number : Reader Nat) (buf : Buffer) (t : ValueTables) : Nat -> Reader EncodedValue
 | 0 => throw .tooDeep
 | fuel + 1 => do
  let head <- u8 buf
  let tag := head % 32
  let arg := head / 32
  if 0x02 ≤ tag && tag < 0x17 then return .number head (<- take buf (arg + 1))
  else if tag = 0x17 then
   let raw <- take buf (arg + 1)
   return .string head raw (<- t.string (decode raw))
  else if tag = 0x18 then
   let raw <- take buf (arg + 1)
   return .type head raw (<- t.type (decode raw))
  else if tag = 0x19 || tag = 0x1b then
   let raw <- take buf (arg + 1)
   return .field head raw (<- t.field (decode raw))
  else if tag = 0x1a then
   let raw <- take buf (arg + 1)
   return .method head raw (<- t.method (decode raw))
  else if tag = 0x1c then
   let size <- number
   return .array head (<- readValues number buf t fuel size)
  else if tag = 0x1d then
   let type <- number
   let size <- number
   return .annotated head type (<- readElements number buf t fuel size)
  else if tag = 0x00 then return .byte head (<- take buf 1)
  else if tag = 0x1e then return .null head
  else if tag = 0x1f then return .truth head (arg ≠ 0)
  else throw .badKind

def readValues (number : Reader Nat) (buf : Buffer) (t : ValueTables) : Nat -> Nat -> Reader (List EncodedValue)
 | _, 0 => return []
 | 0, _ => throw .tooDeep
 | fuel + 1, n + 1 => do
  let v <- readValue number buf t fuel
  let vs <- readValues number buf t fuel n
  return v :: vs

def readElements (number : Reader Nat) (buf : Buffer) (t : ValueTables) : Nat -> Nat -> Reader (List (Nat × EncodedValue))
 | _, 0 => return []
 | 0, _ => throw .tooDeep
 | fuel + 1, n + 1 => do
  let name <- number
  let v <- readValue number buf t fuel
  let vs <- readElements number buf t fuel n
  return (name, v) :: vs

end

def fuelFor : Nat := 2 * buf.size + 4

def readArray (number : Reader Nat) (t : ValueTables) (fuel : Nat) : Reader (List EncodedValue) := do
 readValues number buf t fuel (<- number)

def readAnnotationBody (number : Reader Nat) (t : ValueTables) (fuel : Nat) : Reader AnnotationBody :=
 return ⟨<- number, <- readElements number buf t fuel (<- number)⟩

mutual

def raw : EncodedValue -> Bytes
 | number h r | string h r _ | type h r _ | field h r _ | method h r _ | byte h r => ofNat h :: r
 | array h vs => ofNat h :: (writeU vs.length ++ rawValues vs)
 | annotated h t es =>
  ofNat h :: (writeU t ++ writeU es.length ++ rawElements es)
 | null h | truth h _ => [ofNat h]

def rawValues : List EncodedValue -> Bytes
 | [] => []
 | v :: vs => v.raw ++ rawValues vs

def rawElements : List (Nat × EncodedValue) -> Bytes
 | [] => []
 | (n, v) :: es => writeU n ++ v.raw ++ rawElements es

end

def rawArray : Bytes := writeU vs.length ++ rawValues vs

/-- The number of bytes of a value, and of an array as the sum over its values. -/
def length : Nat := v.raw.length

def arrayLength : Nat := vs.foldl (· + ·.length) (writeU vs.length).length

end EncodedValue

variable (a : AnnotationBody)

def AnnotationBody.raw : Bytes :=
 writeU a.type ++ writeU a.elements.length ++ EncodedValue.rawElements a.elements

def AnnotationBody.length : Nat :=
 a.elements.foldl (fun n e => n + (writeU e.1).length + e.2.length)
  (writeU a.type ++ writeU a.elements.length).length

end DexLens.Dex
