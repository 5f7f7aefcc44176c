import DexLens.Source.Construct
import DexLens.Source.Propagate
import DexLens.Source.Structure
import DexLens.Source.Writer

/-! # Source text of methods -/

namespace DexLens.Source

open Dex Writing

/-- What the source text of a method needs to know about it. -/
structure Method where
 (cls name : String)
 access : List String
 result : String
 paramTypes : List String
 frame : Frame
 ground : Option Ground

namespace Method

variable (m : Method)

def paramRegisters : Int -> List String -> List (Int × String)
 | _, [] => []
 | r, t :: ts => (r, t) :: paramRegisters (r + Descriptor.regs t) ts

def frameOf (access : List String) (name : String) (types : List String) : Option CodeItem -> Frame
 | none => ⟨none, []⟩
 | some c =>
  let start := (c.regs : Int) - c.ins
  if access.contains "static" then ⟨none, paramRegisters start types⟩
  else ⟨(start, name), paramRegisters (start + 1) types⟩

def ofFile (d : File) (r : MRef) (flow : Analysis.Flow) : Res Method := do
 let m := d.methodAt r
 let desc <- .opt .noPart m.desc
 let access := AccessFlags.names methodModifiers m.flags
 let result <- typeName ((Text.split ')' desc).getLastD "")
 let paramTypes := Descriptor.parameters desc
 let code := d.codeOf? r
 let frame := frameOf access m.title paramTypes code
 let ground <- match code with
  | some c =>
   if flow.blocks.isEmpty then pure none
   else pure (some ⟨d, frame, flow, Analysis.Flow.located 0 (<- c.decoded)⟩)
  | none => pure none
 return ⟨m.owner, m.title, access, result, paramTypes, frame, ground⟩

def heading : Res String := do
 let acc := " ".intercalate (m.access.filter (· != "constructor"))
 let front <- if m.access.contains "constructor" then do
  pure (acc ++ " " ++ (Text.split '.' (<- typeName m.cls)).getLastD "")
  else pure s!"{acc} {m.result} {m.name}"
 let regs := if m.access.contains "static" then m.frame.regs else m.frame.regs.drop 1
 let params <- (m.paramTypes.zip regs).mapM fun (t, r) => return (<- typeName t) ++ " p" ++ toString r
 return front ++ "(" ++ ", ".intercalate params ++ ")"

def write (g : Graph) : Res Page := do
 let head <- m.heading
 let writing : Writing Unit := do
  put ((<- space) ++ head)
  put ("\n" ++ (<- space) ++ "\x7b\n")
  indented (visit (g.blocks.size + 2) (some g.entry))
  put ((<- space) ++ "\x7d\n")
 let (_, page) <- writing.run (.blank g (m.access.contains "constructor"))
 return page

def structured (w : Ground) : Res Graph := do
 let (g, ud, du) := traced (<- w.construct) m.frame.regs
 let g <- (<- (<- (Woven.mk g ud du).eliminate).propagate).graph.splitConditions.simplify
 let g := g.reorder
 g.findStructure (<- Dominators.find g.net g.num g.order)

def page? : Res (Option Page) :=
 match m.ground with
 | none => .ok none
 | some w => return <- m.write (<- m.structured w)

def text (m : Method) : Res String :=
 return match <- m.page? with
  | some p => p.text
  | none => ""

end Method

end DexLens.Source
