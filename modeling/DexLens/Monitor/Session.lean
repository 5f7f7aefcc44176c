import DexLens.CallGraph.Build
import DexLens.FileKind

/-! # Monitoring an application

A session takes in what the phone reports: reflective calls and code files that were loaded. It extends the call
graph, keeps track of which calls of interest have been seen, and sets aside what it cannot explain.
-/

namespace DexLens.Monitor

open Analysis CallGraph Inspect

variable (path : String) (blob : Bytes)

/-- The parts of a stack frame: class, name and descriptor of a method, if it is well-formed. -/
abbrev Frame := List String

def frameOf (m : Sig) : Frame := [m.cls, m.name, m.desc]

def methodOf : Frame -> Res Sig
 | [c, n, d] => .ok ⟨c, n, d⟩
 | _ => .error .badVal

/-- A call of interest: the method that calls, and what it calls. -/
structure Site where
 (src dst : Sig)
 deriving DecidableEq

/-- A way that was seen to be taken: from a method through a reflective call to another method. -/
structure Crossing where
 src : Sig
 hop : Frame
 dst : Sig
 deriving DecidableEq

structure Suspicion where
 hop : Frame
 dst : Sig
 stack : List Frame

structure LoadCrossing where
 (src hop : Sig)
 path : String
 deriving DecidableEq

structure LoadSuspicion where
 path : String
 stack : List Frame

structure Watch (σ κ : Type) where
 /-- All calls of interest that were found in code. -/
 (srcs uncovered : List Site)
 suspicious : List σ
 covered : List κ

namespace Watch

variable {σ κ : Type} (w : Watch σ κ)

def empty : Watch σ κ := ⟨[], [], [], []⟩

def found (s : Site) : Watch σ κ := { w with srcs := w.srcs ++ [s], uncovered := w.uncovered ++ [s] }

def taken (s : Site) : Watch σ κ := { w with uncovered := w.uncovered.erase s }

def suspect (x : σ) : Watch σ κ := { w with suspicious := w.suspicious ++ [x] }

def cover (x : κ) : Watch σ κ := { w with covered := w.covered ++ [x] }

end Watch

structure Numbers where
 (nodes realNodes edges normal dangerous sig signatureOrSystem needing invokes makings loads : Nat)
 deriving Inhabited

/-- How archives are opened: the code they hold and the parts of the application they declare. -/
abbrev Unpacker := Bytes -> Res (Dex.File × Components)

structure Session where
 needs : Needs
 unpack : Unpacker
 graph : Graph
 dexes : List (String × String)
 /-- How often a content was loaded, by its digest. -/
 loadCounts : List (String × Nat)
 (invokes makings : Watch Suspicion Crossing)
 loads : Watch LoadSuspicion LoadCrossing
 initial : Numbers
 disk : List (String × Bytes)

namespace Session

/-- A session before anything is known. Without a way to open archives, every archive fails. -/
def start (needs : Needs) (unpack : Unpacker := fun _ => .error .unspecified) : Session :=
 ⟨needs, unpack, .empty, [], [], .empty, .empty, .empty, default, []⟩

def hasMore (s : Session) : Bool :=
 !(s.invokes.uncovered.isEmpty && s.makings.uncovered.isEmpty && s.loads.uncovered.isEmpty)

def numbers (s : Session) : Numbers :=
 { nodes := s.graph.nodeCount, realNodes := s.graph.realCount, edges := s.graph.edgeCount
   normal := s.graph.levelCount "normal", dangerous := s.graph.levelCount "dangerous"
   sig := s.graph.levelCount "signature", signatureOrSystem := s.graph.levelCount "signatureOrSystem"
   needing := s.graph.protectedCount
   invokes := s.invokes.srcs.length, makings := s.makings.srcs.length
   loads := s.loads.srcs.length }

end Session

/-- A step of a session. What was done before a failure stays done. -/
abbrev Step := ExceptT Fault (StateM Session)

def Step.ofRes {α : Type} : Res α -> Step α
 | .ok a => return a
 | .error f => throw f

def Step.build {α : Type} (m : Build α) : Step α := do
 let s <- get
 let (r, g) := m.run.run s.graph
 set { s with graph := g }
 ofRes r

/-- The stem of a path and its extension. Dots at the start of the last part make no extension. -/
def splitExtension : String × String :=
 let cs := path.toList.reverse
 let last := cs.takeWhile (· != '/')
 let ext := last.takeWhile (· != '.')
 let stem := last.drop (ext.length + 1)
 if ext.length < last.length && stem.any (· != '.') then
  (.ofList (cs.drop (ext.length + 1)).reverse, .ofList ('.' :: ext.reverse))
 else (path, "")

def keptPath (path digest count : String) : String :=
 let (stem, ext) := splitExtension path
 stem ++ "_" ++ digest ++ "-" ++ count ++ ext

def digestOf : String := Bytes.toHex (Digest.sha256 blob)

def put {β : Type} (t : List (String × β)) (k : String) (v : β) : List (String × β) := Usage.upsert t k (fun _ => v) v

def rename (path newPath : String) : Step Unit :=
 modify fun s =>
  match s.disk.lookup path with
  | some blob => { s with disk := put (s.disk.filter (·.1 != path)) newPath blob }
  | none => s

def record (ps : List Path) (file : Inspection) (add : Site -> Step Unit) : Step Unit :=
 ps.forM fun p => do
  let c <- .ofRes ((callOf p).run.run file).1
  add ⟨c.src, c.dst⟩

/-- The reflective invocations and creations of a file, and its calls that load code. -/
def callsOfInterest : Query (List Path × List Path × List Path) := do
 let _ <- survey
 return (<- hiddenCalls, <- hiddenMakings, <- codeLoading)

/-- Note the calls of interest of a file and add it to the call graph. -/
def survey (file : Dex.File) (parts : Option Components) : Step Unit := do
 let (r, seen) := callsOfInterest.run.run (.start file (<- get).needs false)
 let (invokes, makings, loads) <- .ofRes r
 record invokes seen fun x => modify fun s => { s with invokes := s.invokes.found x }
 record makings seen fun x => modify fun s => { s with makings := s.makings.found x }
 record loads seen fun x => modify fun s => { s with loads := s.loads.found x }
 .build (.addFile (<- .ofRes (Facts.gather.run.run seen).1) parts)

/-- Analyse a code file or an archive with one. A file that only looks like a code file is left
    aside. -/
def analyse : Step Unit :=
 match FileKind.ofBytes? blob with
 | some .dex =>
  match Dex.File.load false false blob with
  | .ok file => survey file none
  | .error _ => return
 | some .archive => do
  let (file, parts) <- .ofRes ((<- get).unpack blob)
  survey file (some parts)
 | _ => throw .noPart

def begin : Step Unit := do
 let digest := digestOf blob
 let kept := keptPath path digest "main"
 modify fun s => { s with disk := put s.disk path blob }
 rename path kept
 modify fun s => { s with
  loadCounts := put s.loadCounts digest 1
  dexes := put s.dexes kept digest }
 analyse blob
 modify fun s => { s with initial := s.numbers }

def isInvocation : Frame -> Res Bool
 | [] => .error .beyond
 | c :: rest =>
  if c != "Ljava/lang/reflect/Method;" then .ok false
  else match rest with
   | [] => .error .beyond
   | n :: rest =>
    if n != "invoke" then .ok false
    else match rest with
     | [] => .error .beyond
     | d :: _ => .ok (d == "(Ljava/lang/Object;[Ljava/lang/Object;)Ljava/lang/Object;")

def isInstantiation : Frame -> Res Bool
 | [] => .error .beyond
 | c :: rest =>
  if c != "Ljava/lang/Class;" && c != "Ljava/lang/reflect/Constructor;" then .ok false
  else match rest with
   | [] => .error .beyond
   | n :: _ => .ok (n == "newInstance")

def crossings (test : Frame -> Res Bool) : List Frame -> Res (Frame × Frame)
 | [] => .error .beyond
 | f :: rest => do
  if <- test f then
   match rest with
   | caller :: _ => return (f, caller)
   | [] => throw .beyond
  else crossings test rest

inductive Mirror where
 | invoke | making
 deriving DecidableEq

namespace Mirror

def shows : Mirror -> Frame -> Res Bool
 | .invoke => isInvocation
 | .making => isInstantiation

def watch : Mirror -> Session -> Watch Suspicion Crossing
 | .invoke, s => s.invokes
 | .making, s => s.makings

def alter (k : Mirror) (f : Watch Suspicion Crossing -> Watch Suspicion Crossing) (s : Session) : Session :=
 match k with
 | .invoke => { s with invokes := f s.invokes }
 | .making => { s with makings := f s.makings }

def chart : Mirror -> Rules -> Sig -> Sig -> Sig -> Build Unit
 | .invoke => .addInvocation
 | .making => .addInstantiation

end Mirror

section

variable (kept : String) (k : Mirror) (dst : Sig) (stack : List Frame)

/-- A method was called by reflection. The call of interest is the first one of the caller. -/
def reflected : Step Unit := do
 let (hop, caller) <- .ofRes (crossings k.shows stack)
 match (k.watch (<- get)).srcs.find? fun s => frameOf s.src == caller with
 | none => modify (k.alter (·.suspect ⟨hop, dst, stack⟩))
 | some site =>
  let way := ⟨site.src, hop, dst⟩
  if !(k.watch (<- get)).covered.contains way then
   modify (k.alter (·.cover way))
   let via <- .ofRes (methodOf hop)
   .build (k.chart (<- get).needs.calls site.src via dst)
  modify (k.alter (·.taken site))

def invoked : Step Unit := reflected .invoke dst stack

def instantiated : Step Unit := reflected .making dst stack

/-- A source directly below its target; the one nearest to the top wins. -/
def loadSite (srcs : List Site) : List Frame -> Option Site
 | callee :: caller :: rest =>
  match srcs.find? fun s => frameOf s.src == caller && frameOf s.dst == callee with
  | some s => some s
  | none => loadSite srcs (caller :: rest)
 | _ => none

def explainLoad : Step Bool := do
 match loadSite (<- get).loads.srcs stack with
 | none =>
  modify fun s => { s with loads := s.loads.suspect ⟨kept, stack⟩ }
  return false
 | some site =>
  modify fun s => { s with loads := s.loads.taken site }
  let way := ⟨site.src, site.dst, kept⟩
  if !(<- get).loads.covered.contains way then
   modify fun s => { s with loads := s.loads.cover way }
   .build (.addLoad site.src site.dst kept)
  return true

def noteLoad : Step Bool := do
 let digest := digestOf blob
 let count := ((<- get).loadCounts.lookup digest).getD 0 + 1
 let kept := keptPath path digest (toString count)
 rename path kept
 modify fun s => { s with
  loadCounts := put s.loadCounts digest count
  dexes := put s.dexes kept digest }
 return (<- explainLoad kept stack) && decide (count ≤ 1)

def loaded : Step Unit := do if <- noteLoad path blob stack then analyse blob

end

def checkExit (stop : Bool) : Step Unit := do if !(<- get).hasMore && stop then throw .interrupted

end DexLens.Monitor
