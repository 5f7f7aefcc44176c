import DexLens.Inspect.Signature
import DexLens.Listing.Code
import DexLens.Report.File

/-! # Instructions in reports -/

namespace DexLens.Report

open Analysis Code Dex Inspect Json Listing Res

variable {α : Type} (t : Tables)

def sorted [Reply α] (xs : List α) : List Json := sortValues (xs.map json)

instance : Reply Operand := ⟨fun
 | .reg n => (0, n)
 | .literal v => (1, v)
 | .raw s => (2, s)
 | .offset v => (3, v)
 | .reference k i text => (k, i, text)⟩

def remarks (ins : Instr) : List (String × Json) :=
 let numbers (xs : List Int) : Json := if xs.isEmpty then .null else xs
 let said (o : Res (Option String)) : Json := o.toOption.join
 let (loaded, bare) := ins.loaded t
 let members : List (String × Json) :=
  [("literals", numbers ins.literal?.toList), ("ref_kind", ins.index?), ("ref_off", ins.branch?),
   ("string", said loaded), ("raw_string", said bare),
   ("formatted_operands", ins.floatForm?.map fun x => [float x]),
   ("translated_kind", said do return (<- Instr.reference t ins (<- opt .badKind ins.index?)).2),
   ("keys", numbers ins.keys), ("targets", numbers ins.dsts), ("kind", ins.kind.toOption.map RefKind.code)]
 members.filter (!·.2 matches .null)

/-- An instruction at an offset: opcode, name, printed operands, length, operands, bytes, remarks. -/
def instruction (offset : Int) (ins : Instr) : Res Json :=
 return (ins.op, <- ins.name, ins.output t offset, ins.length, ins.operands t, ins.raw.toHex, obj (remarks t ins))

/-- Instructions one after the other from an offset on. A failure ends the list as its last item. -/
def instrs (offset : Int) : List Instr -> Option Fault -> List Json
 | [], fault => fault.toList.map .failed
 | ins :: rest, fault =>
  match instruction t offset ins with
  | .ok j => j :: instrs (offset + ins.length) rest fault
  | .error f => [.failed f]

def allInstructions (offset : Int) : List Instr -> Res (List Json)
 | [] => .ok []
 | ins :: rest => return (<- instruction t offset ins) :: (<- allInstructions (offset + ins.length) rest)

/-! # Flow and usage in reports -/

variable (r : MRef) (f : Flow) (d : File)

def methodSigs (d : File) (r : MRef) : Json :=
 let m := d.methodAt r
 (m.cls, m.name, m.desc)

def path (p : Path) : Query Json :=
 return arr (p.kind :: p.offset :: json (<- names p.src) :: (<- p.dst.toList.mapM names).map json)

def need : Need -> Query Json
 | .call p => path p
 | .field f a off m => return (a.letter, off, (f.cls, f.name, f.type), json (<- names m))

def byName (write : α -> Query Json) (xs : List (String × List α)) : Query Json :=
 return <- xs.mapM fun (k, ps) => return (k, <- ps.mapM write)

instance : Reply Access := ⟨(·.letter)⟩

instance : Reply FieldUse := ⟨fun f => (f.cls, f.name, f.type)⟩

def places (p : Places) : Json := p.flat.map fun (a, off, m) => ((a, off), m)

def tainted : Query Json := do
 let u <- usage
 return .obj [("strings", u.strings.map fun s => (s.text, s.text, places s.places, s.places.length)),
  ("fields", u.fields.map fun f => (f.key, f, places f.places))]

def usedBy : Query Json := do
 let u <- usage
 let m := ((<- file).methodAt r).idx
 return .obj [("strings", sorted ((u.stringsOf m).map fun (s, ps) => (s.text, ps))), ("fields", sorted (u.fieldsOf m)),
  ("packages", <- byName path (u.packagesOf r))]

def fieldTraffic : Query Json := do
 let d <- file
 let traffic (xs : List (MRef × List Nat)) := xs.map fun (m, offs) => (methodSigs d m, offs)
 return (<- get).traffic.map fun (r, t) =>
  let f := d.fieldAt r
  ((f.cls, f.name, f.type), traffic t.reads, traffic t.writes, sorted t.names.eraseDups)

def onFlow (g : MRef -> Flow -> File -> Res α) (r : MRef) : Query α := do
 let f <- flow r
 look (g r f)

def nameIn (i : Nat) : String := blockName (d.methodAt r).title (f.blocks.getD i default)

def block (all : Located) (b : Block) : Res Json := do
 let name := nameIn r f d
 let links := List.map fun l => (l.first, l.second, name l.block)
 let ins <- (b.code all).mapM fun (_, i) => i.name
 let special <- b.payloads.mapM fun (off, i) => return (off, <- i.mapM (·.name))
 let last <- opt .beyond ins.getLast?
 return .obj [("name", blockName (d.methodAt r).title b), ("start", b.start), ("end", b.stop), ("nb", b.count),
  ("last", last), ("ins", ins), ("next", links b.next), ("prev", links b.prev), ("special", sorted special),
  ("ex", (b.guard.bind (f.guards[·]?)).map (Listing.guard name))]

def blocks : Res Json := do
 let some c := d.codeOf? r | return arr []
 return <- f.blocks.toList.mapM (block r f d (Flow.located 0 (<- c.decoded)))

def guards : Res Json := do
 let name := nameIn r f d
 return <- f.guards.toList.mapM fun g => do
  let list <- g.handlers.mapM fun h =>
   return table [("bb", name (<- opt .noPart h.block)), ("idx", h.addr), ("name", h.name)]
  return (table [("end", g.stop), ("list", list), ("start", g.start)], Listing.guard name g)

/-- Nothing for an instruction without one, an empty list for a constant that has none. -/
def floatForm (ins : Instr) : Json :=
 if ins.hasFloatForm then (ins.floatForm?.map fun x => written (Decimal.shortestText x)).toList else .null

def blockInstruction (t : Tables) (detailed : Bool) : Nat × Instr -> Res Json
 | (idx, ins) => do
  let base := [("idx", json idx), ("name", json (<- ins.name)), ("operands", json (<- ins.operands t))]
  return .obj (if detailed then base ++ [("formatted_operands", floatForm ins)] else base)

def plainBlock (c : CodeItem) (all : Located) : Block × Nat -> Res Json
 | (b, i) => return .obj [("BasicBlockId", nameIn r f d i), ("registers", c.regs),
  ("instructions", <- (b.code all).mapM (blockInstruction d.codeTables false)),
  ("Edge", b.next.map (nameIn r f d ·.block))]

def selfLoops : List Nat := f.blocks.toList.zipIdx.flatMap fun (b, i) => (b.next.filter (·.block == i)).map fun _ => i

def detours : List (Nat × Nat) :=
 (selfLoops f).foldl (fun acc i => (f.blocks.getD i default).prev.foldl (fun acc l => (l.block, i) :: acc) acc) []

def detailedBlock (c : CodeItem) (all : Located) : Block × Nat -> Res Json
 | (b, i) => do
  let name := nameIn r f d
  let code := b.code all
  let ins <- code.mapM (blockInstruction d.codeTables true)
  let keys <- (code.filter fun (_, ins) => isSwitch ins.op).mapM fun (idx, _) => switchKeys b idx
  let info := keys.getLast?.toList.map ("info_next", json ·)
  let last := (code.getLast?.map fun (_, ins) => ins.op).getD 0
  let shape : Nat := if b.next.isEmpty then 0 else if isSwitch last then 2 else if b.next.length > 1 then 1 else 0
  let detour := (detours f).lookup i
  let edges := b.next.map fun l => if detour = some l.block then name l.block ++ "-pre" else name l.block
  let guarded <- (b.guard.bind (f.guards[·]?)).toList.mapM fun g => do
   let list <- g.handlers.mapM fun h =>
    return obj [("name", h.name), ("idx", h.addr), ("bb", name (<- opt .noPart h.block))]
   return ("Exceptions", obj [("start", g.start), ("end", g.stop), ("list", list)])
  return .obj ([("BasicBlockId", json (name i)), ("start", b.start), ("notes", .arr []), ("registers", c.regs),
   ("instructions", ins)] ++ info ++ [("info_bb", json shape), ("Edge", edges)] ++ guarded)

/-- In detail, a block that follows itself gets another one before it. -/
def blockReports (detailed : Bool) (r : MRef) (f : Flow) (d : File) : Res Json := do
 let before i := obj [("BasicBlockId", nameIn r f d i ++ "-pre"), ("start", (f.blocks.getD i default).start),
  ("notes", .arr []), ("Edge", [nameIn r f d i]), ("registers", nat 0), ("instructions", .arr []), ("info_bb", nat 0)]
 let all <- (d.codeOf? r).toList.mapM fun c => do
  let write := if detailed then detailedBlock r f d c else plainBlock r f d c
  let made <- f.blocks.toList.zipIdx.mapM (write (Flow.located 0 (<- c.decoded)))
  return made ++ if detailed then (selfLoops f).map before else []
 return .obj [("reports", all.flatten)]

end DexLens.Report
