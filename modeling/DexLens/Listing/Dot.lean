import DexLens.Colour
import DexLens.Digest
import DexLens.Listing.Code
import DexLens.Markup.Basic
import DexLens.Text.Wrap

/-! # Flow as a picture

One table per block, one edge per way from a block to another.
-/

namespace DexLens.Listing

open Analysis Code Descriptor Dex Digest String Text

/-- Text in which the three characters that mean something in markup are spelled out. -/
def markup : String -> String := Markup.escape

def coloured (colour text : String) : String := s!"<FONT color=\"{colour}\">{text}</FONT>"

def stacked (lines : List String) : String := "<br/>" ++ "<br/>".intercalate lines

def known (cause : Fault) (s : Option String) : Res String := .opt cause s

def pictureOperand (colours : List (Int × String)) : Operand -> Res String
 | .reg n => do return coloured (<- .opt .noKey (colours.lookup n)) s!"v{n}"
 | .literal v => .ok (coloured "green" ("0x" ++ Text.hex v))
 | .raw s =>
  let escaped s := markup (inside 1 1 (quotedBytes s))
  .ok (coloured "red" (if s.length > 32 then stacked ((wrap 32 s).map escaped) else escaped s))
 | .offset v => .ok s!"<FONT FACE=\"Times-Italic\" color=\"#4000FF\">0x{Text.hex v}</FONT>"
 | .reference 0x101 _ s => do
  let s <- known .badKind s
  return coloured "red" (if s.length > 32 then stacked ((wrap 32 s).map markup) else markup s)
 | .reference 0x100 _ s => do return coloured "#DF3A01" (markup (<- known .noPart s))
 | .reference 0x102 _ s => do return coloured "#088A08" (markup (<- known .noPart s))
 | .reference 0x103 _ s => do return coloured "#0000FF" (markup (<- known .noPart s))
 | .reference _ _ s => .ok (markup (File.shown s))

def registersIn (ops : List Operand) : List Int := (ops.filterMap fun | .reg n => some n | _ => none).eraseDups

def pictureRow (t : Tables) (colours : List (Int × String)) (idx : Nat) (ins : Instr) : Res String := do
 let ops <- (<- ins.operands t).mapM (pictureOperand colours)
 let float := if let some x := ins.floatForm? then s!" ; [{Decimal.shortestText x}]" else ""
 let back := if idx = 0 then "yellow" else "lightgray"
 let bold (colour text : String) := s!"<FONT FACE=\"Times-Bold\" color=\"{colour}\">{text}</FONT>"
 let name <- ins.name
 return s!"<TR><TD ALIGN=\"LEFT\" BGCOLOR=\"{back}\"> " ++ bold "blue" (hexNat idx) ++
  " </TD><TD ALIGN=\"LEFT\" BGCOLOR=\"lightgray\"> " ++ bold "black" (name ++ " ") ++ " " ++
  ", ".intercalate ops ++ float ++ " </TD></TR>\n"

def port (name : String) : String := s!"<TR><TD PORT=\"{name}\"></TD></TR>\n"

def pictureEdge (src dst colour label : String) : String :=
 s!"struct_{src}:tail -> struct_{dst}:header  [color=\"{colour}\", label=\"{label}\"];\n"

/-- The first of several edges is the one taken when a condition fails, or the default of a switch. -/
def followEdges (ident : Nat -> String) (i : Nat) (b : Block) (last : Int) (lastIdx : Nat) : Res String := do
 let n := b.next.length
 let switch := isSwitch last && n > 1
 let labels <- if switch then do pure ("default" :: (<- switchKeys b lastIdx).map toString) else pure []
 let first := if switch then "purple" else if n > 1 then "red" else "blue"
 return join (b.next.zipIdx.map fun (l, k) =>
  let colour := if k = 0 then first else if first == "blue" then "blue" else "green"
  pictureEdge (ident i) (ident l.block) colour (labels.getD k ""))

/-- The picture of a method: its title, its blocks, its edges. -/
structure Picture where
 (title nodes edges : String)

def pictureTitle (m : DexMethod) (c? : Option CodeItem) : Res String := do
 let head := s!"{m.owner}.{m.title}->{m.sig}"
 let some c := c? | return head
 let (params, result) <- listed m.sig
 let n := (c.regs : Int) - params.length
 let names <- params.mapM (listingName none ·.toList)
 let shown := names.zipIdx.map fun (s, i) => s!"\\nparam v{n + (i : Int)} = {s}"
 return s!"{head}\\nLocal registers v0 ... v{n - 1}" ++ join shown ++
  s!"\\nreturn = {<- Descriptor.listingName none result.toList}"

def picture (d : File) (r : MRef) (f : Flow) : Res Picture := do
 let m := d.methodAt r
 let t := d.codeTables
 let c? := d.codeOf? r
 let all <- if let some c := c? then do pure (Flow.located 0 (<- c.decoded)) else pure []
 let bytes s := (Bytes.ofText? s).getD []
 let digest := (sha256 (bytes m.key)).toHex
 let ident i := (md5 (bytes (digest ++ blockName m.title (f.blocks.getD i default)))).toHex
 let used <- (f.blocks.toList.flatMap (·.code all)).mapM fun (_, i) => i.operands t
 let regs := registersIn used.flatten
 let colours <- if regs.isEmpty then pure [] else do
  pure (regs.zip (<- Colour.range "#999933" "#6666FF" regs.length))
 let parts <- f.blocks.toList.zipIdx.mapM fun (b, i) => do
  let code := b.code all
  let rows <- code.mapM fun (idx, ins) => pictureRow t colours idx ins
  let node := s!"\nstruct_{ident i} [label=<\n<TABLE BORDER=\"0\" CELLBORDER=\"0\" CELLSPACING=\"3\">\n" ++
   port "header" ++ join rows ++ port "tail" ++ "</TABLE>>];\n"
  let (lastIdx, last) := if let some (idx, ins) := code.getLast? then (idx, ins.op) else (0, 0)
  let follow <- followEdges ident i b last lastIdx
  let handlers := ((b.guard.bind (f.guards[·]?)).map (·.handlers)).getD []
  let caught := handlers.filterMap fun h => h.block.map fun k => pictureEdge (ident i) (ident k) "black" h.name
  let links := code.filterMap fun (idx, ins) =>
   if ins.op = 0x26 || isSwitch ins.op then ins.branch?.map (i, idx, 2 * · + (idx : Int)) else none
  return (node, follow ++ join caught, links)
 let data := (parts.flatMap (·.2.2)).filterMap fun (i, idx, dst) =>
  (Flow.blockAt? f.blocks dst).map fun k =>
   s!"struct_{ident i}:tail -> struct_{ident k}:header  [color=\"yellow\", label=\"data(0x{Text.hexNat idx}) to @0x{Text.hex dst}\", style=\"dashed\"];\n"
 return ⟨<- pictureTitle m c?, join (parts.map (·.1)), join (parts.map (·.2.1)) ++ join data⟩

end DexLens.Listing
