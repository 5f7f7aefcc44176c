import DexLens.Dex.File

/-! # Debug information

A small program for a state machine that maps code to lines and registers to variables.
-/

namespace DexLens.Dex

open Reader

/-- An operand of a debug instruction with the letter of its encoding. -/
structure DebugOperand where
 value : Int
 encoding : String

structure DebugStep where
 op : Nat
 operands : List DebugOperand

structure DebugInfo where
 lineStart : Nat
 names : List Int
 steps : List DebugStep

namespace DebugInfo

variable (buf : Buffer) (d : File)

def operands (op : Nat) : Reader (List DebugOperand) := do
 let u := do return ⟨<- uleb buf, "u"⟩
 let u1 := do return ⟨(<- uleb buf : Int) - 1, "u1"⟩
 match op with
 | 1 => return [<- u]
 | 2 => return [⟨<- sleb buf, "s"⟩]
 | 3 => return [<- u, <- u1, <- u1]
 | 4 => return [<- u, <- u1, <- u1, <- u1]
 | 5 | 6 => return [<- u]
 | 9 => return [<- u1]
 | _ => return []

def readSteps (buf : Buffer) : Nat -> Reader (List DebugStep)
 | 0 => throw .endless
 | fuel + 1 => do
  let op <- u8 buf
  if op = 0 then return [⟨0, []⟩]
  return ⟨op, <- operands buf op⟩ :: (<- readSteps buf fuel)

def read : Reader DebugInfo := do
 let lineStart <- uleb buf
 return ⟨lineStart, <- many (return (<- uleb buf : Int) - 1) (<- uleb buf), <- readSteps buf (buf.size + 1)⟩

def ofFile (off : Nat) : Res DebugInfo := do
 let (info, _) <- (do seek off; read d.buffer : Reader DebugInfo).run 0
 return info

def parameterNames (info : DebugInfo) : Res (List (Option String)) :=
 info.names.mapM fun i => if i = -1 then pure none else return <- d.string i

end DebugInfo

def DebugStep.variable (d : File) (s : DebugStep) : Res (Option String) :=
 if s.op = 3 || s.op = 4 then
  match s.operands[1]? with
  | some o => return <- d.string o.value
  | none => .error .beyond
 else .ok none

end DexLens.Dex
