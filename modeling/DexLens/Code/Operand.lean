import DexLens.Fault
import DexLens.Decimal.Basic
import DexLens.Code.Instruction

/-! # How instructions are shown

What an index stands for is asked from the tables of the file.
-/

namespace DexLens.Code

open Decimal Res Text

/-- The tables of a file, as far as instructions refer to them. -/
structure Tables where
 (string type : Nat -> Res String)
 (field method : Nat -> Res (String × String × String))

inductive Operand where
 | reg (n : Int)
 | literal (v : Int)
 | raw (text : String)
 | offset (v : Int)
 /-- An index with the number of its kind and the text of what it stands for. -/
 | reference (kind : Nat) (index : Int) (text : Option String)

def Tables.describe (t : Tables) (kind : RefKind) (idx : Nat) : Res (Option String) := do
 match kind with
 | .method => let (cls, name, desc) <- t.method idx; return some (cls ++ "->" ++ name ++ desc)
 | .string => return some (quotedBytes (<- t.string idx))
 | .rawString => return some (<- t.string idx)
 | .field => let (cls, type, name) <- t.field idx; return some (cls ++ "->" ++ name ++ " " ++ type)
 | .type => return some (<- t.type idx)
 | .vtableOffset => return some ("vtable[0x" ++ hexNat idx ++ "]")
 | .fieldOffset => return some ("field[0x" ++ hexNat idx ++ "]")
 | .inlineMethod =>
  let known := match inlineMethods[idx]? with
   | some (cls, name, desc) => " " ++ cls ++ "->" ++ name ++ desc
   | none => ""
  return some ("inline[0x" ++ hexNat idx ++ "]" ++ known)
 | .varies => return none

namespace Instr

variable (ins : Instr) (t : Tables)

def name : Res String :=
 match ins with
 | packedSwitch _ _ _ => .ok "packed-switch-payload"
 | sparseSwitch _ _ _ => .ok "sparse-switch-payload"
 | arrayData _ _ _ => .ok "fill-array-data-payload"
 | fail _ => .ok "AG:invalid_instruction"
 | unresolved _ => .ok "unresolved"
 | _ => (opt .noKey (Opcode.find? ins.op.toNat)).map (·.name)

def kind : Res RefKind :=
 match ins with
 | packedSwitch _ _ _ | sparseSwitch _ _ _ | arrayData _ _ _ | unresolved _ => .error .noPart
 | _ => do
  let info <- opt .noKey (Opcode.find? ins.op.toNat)
  opt .beyond info.kind

/-- The floating-point number that the literal of a constant instruction may stand for. -/
def floatForm? : Instr -> Option Float
 | f21h 0x15 _ lit => some (Float32.ofBits (.ofNat ((lit % 0x10000).toNat * 0x10000))).toFloat
 | f21h 0x19 _ lit => some (.ofBits (.ofNat ((lit % 0x10000).toNat * 0x1000000000000)))
 | f21s 0x16 _ lit => some (ofInt lit)
 | f31i 0x14 _ lit => some (Float32.ofBits (.ofNat (lit % 0x100000000).toNat)).toFloat
 | f31i 0x17 _ lit => some (ofInt lit)
 | f51l 0x18 _ lit => some (.ofBits (.ofNat (lit % 0x10000000000000000).toNat))
 | _ => none

def hasFloatForm : Instr -> Bool
 | f21h _ _ _ | f21s _ _ _ | f31i _ _ _ | f51l _ _ _ => true
 | _ => false

def reg (n : Int) : String := "v" ++ toString n

def constText (a : Nat) (lit : Int) : String :=
 reg a ++ ", " ++ toString lit ++ match ins.floatForm? with
  | some x => " # [" ++ shortestText x ++ "]"
  | none => ""

def fiveRegisters (count c d e f g : Nat) : List Nat := [c, d, e, f, g].take count

section

variable (offset : Int) (ins : Instr) (count first : Nat)

def fiveShown (count : Nat) (bare : Bool) : Bool := count ≤ 5 && !(bare && count == 0)

def refText (t : Option String) : String := t.getD "None"

def reference (idx : Nat) : Res (RefKind × Option String) := do
 let k <- ins.kind
 return (k, <- t.describe k idx)

def rangeText : String :=
 if count = 1 then reg first else reg first ++ " ... " ++ reg (first + count - 1)

def escapes (data : Bytes) : String := .join (data.map ("\\x" ++ hexPad 2 ·.toNat))

def output : Res String := do
 let ref idx := do return refText (<- reference t ins idx).2
 match ins with
 | f10x _ => return ""
 | f10t _ off | f20t _ off | f30t _ off => return signedHex off
 | f11n _ a lit => return reg a ++ ", " ++ toString lit
 | f21h _ a lit | f21s _ a lit | f31i _ a lit | f51l _ a lit => return constText ins a lit
 | f11x _ a => return reg a
 | f12x _ a b | f22x _ a b | f32x _ a b => return reg a ++ ", " ++ reg b
 | f20bc _ a b => return toString a ++ ", " ++ toString b
 | f21c _ a idx | f31c _ a idx | f41c _ idx a => return reg a ++ ", " ++ (<- ref idx)
 | f21t _ a off => return reg a ++ ", " ++ signedHex off
 | f22b _ a b lit | f22s _ a b lit => return reg a ++ ", " ++ reg b ++ ", " ++ toString lit
 | f22c _ a b idx | f52c _ idx a b => return reg a ++ ", " ++ reg b ++ ", " ++ (<- ref idx)
 | f22t _ a b off => return reg a ++ ", " ++ reg b ++ ", " ++ signedHex off
 | f23x _ a b c => return reg a ++ ", " ++ reg b ++ ", " ++ reg c
 | f31t _ a off => return reg a ++ ", +" ++ hex off ++ " (0x" ++ hex (off * 2 + offset) ++ ")"
 | f35c _ count idx c d e f g bare =>
  let text <- ref idx
  if fiveShown count bare then
   return ", ".intercalate ((fiveRegisters count c d e f g).map (fun (n : Nat) => reg n) ++ [text])
  else return ""
 | f3rc _ count idx first | f5rc _ idx count first => return rangeText count first ++ ", " ++ (<- ref idx)
 | f40sc _ idx a => return toString a ++ ", " ++ (<- ref idx)
 | packedSwitch _ _ _ | sparseSwitch _ _ _ => return " ".intercalate (ins.keys.map hex)
 | arrayData _ _ data => return quotedBytes data.toText ++ " | " ++ escapes data
 | fail op => return "(OP:" ++ hexNat op ++ ")"
 | unresolved data => return quotedBytes data.toText

/-- All registers of a range but the last, unless there is only one. -/
def rangeOperands : List Operand :=
 if count = 1 then [.reg first]
 else (List.range (count - 1)).map fun i => .reg (first + i : Nat)

def operands : Res (List Operand) := do
 let ref idx := do
  let (k, text) <- reference t ins idx
  return .reference (0x100 + k.code) idx text
 let r n := .reg n
 match ins with
 | f10x _ => return []
 | f10t _ off | f20t _ off | f30t _ off => return [.offset off]
 | f11n _ a lit | f21h _ a lit | f21s _ a lit | f31i _ a lit | f51l _ a lit | f31t _ a lit =>
  return [r a, .literal lit]
 | f11x _ a => return [r a]
 | f12x _ a b | f22x _ a b | f32x _ a b => return [r a, r b]
 | f20bc _ a b => return [.literal a, .literal b]
 | f21c _ a idx | f31c _ a idx | f41c _ idx a => return [r a, <- ref idx]
 | f21t _ a off => return [r a, .offset off]
 | f22b _ a b lit | f22s _ a b lit => return [r a, r b, .literal lit]
 | f22c _ a b idx => return [r a, r b, <- ref idx]
 | f22t _ a b off => return [r a, r b, .offset off]
 | f23x _ a b c => return [r a, r b, r c]
 | f35c _ count idx c d e f g bare =>
  let last <- ref idx
  if fiveShown count bare then return (fiveRegisters count c d e f g).map r ++ [last] else return []
 | f3rc _ count idx first => let last <- ref idx; return rangeOperands count first ++ [last]
 | f40sc _ idx a => return [.literal a, <- ref idx]
 | f52c _ idx a b => return [.literal a, .literal b, <- ref idx]
 | f5rc _ idx _ _ => let _ <- ref idx; throw .noPart
 | packedSwitch _ _ _ | sparseSwitch _ _ _ | fail _ => return []
 | arrayData _ _ data => return [.raw (quotedBytes data.toText)]
 | unresolved data => return [.reference 0x101 (-1) ("AG:OP: invalid opcode " ++ quotedBytes data.toText)]

/-- The text that a load of a constant from a table shows, and the same with text left bare. -/
def loaded : Res (Option String) × Res (Option String) :=
 match ins with
 | f21c _ _ idx | f31c _ _ idx => ((do return (<- reference t ins idx).2), t.describe .rawString idx)
 | _ => (.error .noPart, .error .noPart)

end

end Instr

end DexLens.Code
