import DexLens.Descriptor
import DexLens.Risk.Basic

/-! # Making risk maps -/

namespace DexLens.Risk

open CallGraph Inspect Sig Spot

abbrev Build := ExceptT Fault (StateM Map)

namespace Build

def find? (key : String) : Build (Option Nat) := return (<- get).spots.findIdx? (·.key == key)

def node (s : Spot) : Build Nat := do
 match <- find? s.key with
 | some i => return i
 | none =>
  let n := (<- get).spots.length
  modify fun g => { g with spots := g.spots ++ [s] }
  return n

variable (m : Sig) (cs : List Call) (u v : Nat)

def methodNode : Build Nat := node (.fresh m.key m m.key true)

def classNode (cls : String) : Build Nat := node (.fresh cls ⟨cls, "", ""⟩ (cls ++ "  ") true)

def markNode (label : String) : Build Nat := node (.fresh m.key m label false)

def update (n : Nat) (f : Spot -> Spot) : Build Unit := modify fun g => { g with spots := g.spots.modify n f }

def refer (place : Option Nat) : Build Unit :=
 update u fun s => { s with uses := Analysis.Usage.upsert s.uses v (· ++ [place]) [place] }

def call : Build Unit := modify fun g => { g with calls := g.calls.addEdge u v }

def addCalls : Build Unit :=
 cs.forM fun c => do
  let u <- methodNode c.src
  let v <- methodNode c.dst
  call u v
  refer u v c.offset

def addCreations (cs : List (String × Sig × Nat)) : Build Unit :=
 cs.forM fun (cls, m, off) => do
  let u <- methodNode m
  let v <- classNode cls
  modify fun g => { g with creations := g.creations.addEdge v u }
  refer u v off

def addEntry (type label : String) (colour : Json) (m : Sig) : Build Unit := do
 match <- find? m.key with
 | none => pure ()
 | some u =>
  update u fun s => (s.set "type" type).set "color" colour
  let v <- markNode { m with desc := m.desc ++ label } label
  update v (·.set "color" colour)
  call v u
  modify fun g => { g with entries := g.entries ++ [u] }

def addEntries (type label name desc : String) (colour : Json) (parts : List String) : Build Unit :=
 parts.forM fun part => addEntry type label colour ⟨Descriptor.ofDottedName part, name, desc⟩

def addThreads (ts : List ThreadBody) : Build Unit :=
 ts.forM fun t => do
  let body <- methodNode t.body
  let start <- methodNode { t.body with name := "start" }
  call start body
  refer start body none
  t.constructors.forM fun c => do
   let n <- methodNode { c with name := "<init>" }
   call n start
   refer n start none

/-- Calls that need a permission must not lead to methods on the map, since no level is known for them. -/
def checkPermissions : Build Unit :=
 cs.forM fun c => do if (<- find? c.dst.key).isSome then throw .noKey

/-- A mark for the creation of a class loader. It is placed at the last call that needs a permission. -/
def addLoader (last : Option Sig) (m : Sig) : Build Unit := do
 let u <- find? m.key
 match last with
 | none => throw .unbound
 | some t =>
  let v <- markNode { t with desc := t.desc ++ " DEXCLASSLOADER" } "DEXCLASSLOADER"
  match u with
  | none => throw .noPart
  | some u =>
   update u (·.set "dynamic_code" "true")
   update v (·.set "color" (rgb 0 0 0))
   call v u
   update u fun s =>
    if s.risks.contains "DEXCLASSLOADER" then s else { s with risks := s.risks ++ ["DEXCLASSLOADER"] }

end Build

def loaderClass : String := "Ldalvik/system/DexClassLoader;"

/-- What a map is drawn from: calls and creations inside the file, calls that need permissions, and methods that create
    class loaders. -/
structure Facts where
 calls : List Call
 creations : List (String × Sig × Nat)
 threads : List ThreadBody
 needs : List Call
 loaders : List Sig

namespace Facts

variable (f : Facts)

def ofFile : Query Facts := do
 let calls <- (<- internalCalls).mapM callOf
 let creations <- (<- internalCreations).flatMapM fun (cls, ps) => ps.mapM fun p =>
  return (cls, ofTriple (<- names p.src), p.offset)
 let threads <- threadBodies
 let needs <- ((<- neededByCalls []).flatMap fun (_, ps) => ps.filterMap fun
  | .call p => some p
  | .field _ _ _ _ => none).mapM callOf
 let loaders <- (((<- usage).pkgs.filter (·.name == loaderClass)).flatMap (·.creations)).mapM fun p =>
  return ofTriple (<- names p.src)
 return ⟨calls, creations, threads, needs, loaders⟩

def lastTarget : Option Sig := (f.calls ++ f.needs).getLast?.map (·.dst)

end Facts

namespace Build

variable (f : Facts) (parts : Option Components)

def addComponents : Option Components -> Build Unit
 | none => pure ()
 | some a => do
  addEntries "activity" "ACTIVITY" "onCreate" "(Landroid/os/Bundle;)V" (rgb 51 255 51) a.activities
  addEntries "service" "SERVICE" "onCreate" "()V" (rgb 0 204 204) a.services
  addEntries "receiver" "RECEIVER" "onReceive" "(Landroid/content/Context; Landroid/content/Intent;)V"
   (rgb 204 51 204) a.receivers

def addParts : Build Unit := do
 addCalls f.calls
 addCreations f.creations
 addComponents parts
 addThreads f.threads

def addFile : Build Unit := do
 addParts f parts
 checkPermissions f.needs
 f.loaders.forM (addLoader f.lastTarget)

end Build

def Map.ofFile (parts : Option Components) : Query Map := do
 let f <- Facts.ofFile
 let (r, g) := (Build.addFile f parts).run.run empty
 .of r
 return g

/-- The attributes of nodes outside of the file, or the given ones. -/
def Map.markAll (g : Map) (values : List (String × Json)) : Query Map := do
 g.calls.nodes.foldlM (fun g n => do
  let s := g.spots.getD n default
  let known <- method? (s.method.cls ++ s.method.name ++ s.method.desc)
  let values := if known.isSome then values else [("type", .str "outside")]
  let s <- .of (values.foldlM (fun s (k, v) => s.mark k v) s)
  return { g with spots := g.spots.set n s }) g

end DexLens.Risk
