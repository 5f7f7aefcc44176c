import DexLens.Analysis.Flow
import DexLens.Listing.Item

/-! # Listings of code

Plainly one instruction per line, or by basic blocks.
-/

namespace DexLens.Listing

open Analysis Code Dex String Text

variable (d : File) (title : String) (c : CodeItem) (name : Nat -> String) (b : Block) (t : Tables) (idx : Nat) (op : Int)

def payload : Instr -> Option String
 | .packedSwitch _ first dsts =>
  some (s!"packed-switch-payload {Text.hex first}:" ++ join (dsts.map fun t => s!" {Text.hex t}"))
 | .sparseSwitch _ keys dsts =>
  some ("sparse-switch-payload " ++ join ((keys.zip dsts).map fun (k, t) => s!"{Text.hex k}:{Text.hex t} "))
 | .arrayData _ _ data => some ("fill-array-data-payload " ++ Instr.escapes data)
 | _ => none

def plainInstruction (nb : Nat) (ins : Instr) : Res String := do
 let some s := payload ins | return (<- ins.name) ++ " " ++ (<- ins.output t nb)
 return s

def plainLines (t : Tables) : Nat -> Nat -> List Instr -> Res String
 | _, _, [] => .ok ""
 | nb, idx, ins :: rest => do
  let head := s!"{Text.padRight 8 (toString nb)}({Text.hexPad 8 idx}) "
  return head ++ (<- plainInstruction t nb ins) ++ "\n" ++ (<- plainLines t (nb + 1) (idx + ins.length) rest)

def plainCode : Res String := do
 let body <- plainLines d.codeTables 0 0 c.instrs
 let some f := c.fault | return banner ++ body ++ banner
 throw f

def operandTuple : Operand -> String
 | .reg n => tupled ["0", toString n]
 | .literal v => tupled ["1", toString v]
 | .raw s => tupled ["2", quoted s]
 | .offset v => tupled ["3", toString v]
 | .reference k i t => tupled [toString k, toString i, quotedName t]

/-- Operands of unusual kinds show the third operand of the whole instruction. -/
def blockOperand (all : List Operand) : Operand -> Res String
 | .reg n => .ok s!"v{n}"
 | .literal v => .ok (toString v)
 | .raw s => .ok s
 | .offset v => .ok (toString v)
 | .reference k _ text =>
  if k = 0x100 || k = 0x101 || k = 0x102 || k = 0x103 then .ok (File.shown text)
  else (Res.opt .beyond all[2]?).map operandTuple

def isSwitch : Bool := op = 0x2b || op = 0x2c

def switchKeys : Res (List Int) := do
 let some p := b.payload? idx | .error .noPart
 if p.isSwitchPayload then .ok p.keys else .error .noPart

def blockName : String := title ++ "-BB@0x" ++ hexNat b.start

def following : Res String := do
 let names := b.next.map (name ·.block)
 let first :: rest := names | return ""
 if isSwitch op && rest.length > 0 then
  let keys <- switchKeys b idx
  let cases <- rest.zipIdx.mapM fun (n, j) => return s!"{<- Res.opt .beyond keys[j]?}:{n}"
  return s!"[ D:{first} " ++ " ".intercalate cases ++ " ]"
 else return "[ " ++ " ".intercalate names ++ " ]"

def guard (g : Guard) : String :=
 let line h := s!"\t({h.name} -> {Text.hexNat h.addr} " ++ (h.block.map name).getD "None" ++ ")"
 "\n".intercalate ((Text.hex g.start ++ ":" ++ Text.hex g.stop) :: g.handlers.map line)

def blockLine (c : CodeItem) (name : Nat -> String) (b : Block) (last : Bool)
 (nb idx : Nat) (ins : Instr) : Res String := do
 let notes := (c.notes.lookup (nb : Int)).getD []
 let ops <- ins.operands t
 let shown <- ops.mapM (blockOperand ops)
 let more <- if last && !b.next.isEmpty then pure (" " ++ (<- following name b idx ins.op)) else pure ""
 return join (notes.map fun n => s!"\t# {n}\n") ++ s!"\t{Text.padRight 3 (toString nb)}({Text.hexPad 8 idx}) " ++
  padRight 20 (<- ins.name) ++ ", ".intercalate shown ++ more ++ "\n"

/-- The lines of a block from a number and an offset on, and the number and offset after it. -/
def blockLines (t : Tables) (c : CodeItem) (name : Nat -> String) (b : Block) :
 Nat -> Nat -> List Instr -> Res (String × Nat × Nat)
 | nb, idx, [] => .ok ("", nb, idx)
 | nb, idx, ins :: rest => do
  let line <- blockLine t c name b rest.isEmpty nb idx ins
  let (more, nb, idx) <- blockLines t c name b (nb + 1) (idx + ins.length) rest
  return (line ++ more, nb, idx)

def blockCode (f : Flow) : Res String := do
 let name i : String := blockName title (f.blocks.getD i default)
 let all := Flow.located 0 (<- c.decoded)
 let guards (i : Option Nat) : String := if let some g := i.bind (f.guards[·]?) then s!"\t{guard name g}\n" else ""
 let (body, _, _) <- f.blocks.toList.foldlM (fun (acc, nb, idx) b => do
  let (lines, nb, idx) <- blockLines d.codeTables c name b nb idx ((b.code all).map (·.2))
  return (s!"{acc}{blockName title b} : \n{lines}{guards b.guard}\n", nb, idx)) ("", 0, 0)
 let ending := if f.guards.isEmpty then ""
  else "Exceptions:\n" ++ join (f.guards.toList.map fun g => s!"\t{guard name g}\n")
 return banner ++ body ++ ending ++ banner

def bytecodes (m : DexMethod) (c? : Option CodeItem) (f : Flow) : Res String := do
 let head := s!"# {m.owner}->{m.title}{m.sig} [access_flags={AccessFlags.textOrNumber m.flags}]\n#\n"
 let some c := c? | return head
 let params <- Descriptor.parameterListing c.regs m.sig
 let title i := (f.blocks.getD i default).title
 let name i := blockName m.title (f.blocks.getD i default)
 let all := Flow.located 0 (<- c.decoded)
 let t := d.codeTables
 let (body, _, _) <- f.blocks.toList.foldlM (fun (acc, (nb : Nat), (idx : Nat)) b => do
  let code := (b.code all).map (·.2)
  let (lines, top, nb, idx) <- code.zipIdx.foldlM (fun (lines, top, (nb : Nat), (idx : Nat)) (ins, j) => do
   let line := s!"\t{Text.padRight 8 (toString nb)}({Text.hexPad 8 idx}) " ++
    padRight 20 (<- ins.name) ++ " " ++ (<- ins.output t idx) ++ "\n"
   let top <- if j + 1 = code.length then following title b idx ins.op else pure top
   return (lines ++ line, top, nb + 1, idx + ins.length)) ("", "", nb, idx)
  let guards := if let some g := b.guard.bind (f.guards[·]?) then s!"\t{guard name g}\n" else ""
  return (s!"{acc}{b.title} : {top}\n{lines}{guards}\n", nb, idx)) ("", 0, 0)
 return head ++ params ++ body

end DexLens.Listing
