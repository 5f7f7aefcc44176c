import DexLens.Inspect.Search

/-! # Directed graphs on numbers

Nodes and edges keep their order. Every edge is known at both of its ends.
-/

namespace DexLens.CallGraph

structure Digraph where
 /-- The nodes, each with those that edges lead to. -/
 succ : List (Nat × List Nat)
 /-- The nodes, each with those that edges come from. -/
 pred : List (Nat × List Nat)

namespace Digraph

variable (g : Digraph) (n : Nat) (t : List (Nat × List Nat))

def empty : Digraph := ⟨[], []⟩

def ensure (n : Nat) : List (Nat × List Nat) := if t.any (·.1 == n) then t else t ++ [(n, [])]

def link (n m : Nat) : List (Nat × List Nat) := t.map fun p => if p.1 == n && !p.2.contains m then (p.1, p.2 ++ [m]) else p

def addNode : Digraph := ⟨ensure g.succ n, ensure g.pred n⟩

def addEdge (u v : Nat) : Digraph :=
 let g := (g.addNode u).addNode v
 ⟨link g.succ u v, link g.pred v u⟩

def nodes : List Nat := g.succ.map (·.1)

def edges : List (Nat × Nat) := g.succ.flatMap fun (u, vs) => vs.map (u, ·)

def succs : List Nat := (g.succ.lookup n).getD []

def preds : List Nat := (g.pred.lookup n).getD []

end Digraph

/-! # What a file contributes to a call graph -/

open Dex Analysis Inspect

structure Sig where
 (cls name desc : String)
 deriving DecidableEq, Inhabited

def Sig.ofTriple : String × String × String -> Sig
 | (c, n, d) => ⟨c, n, d⟩

def Sig.of (m : DexMethod) : Sig := ⟨m.owner, m.title, m.sig⟩

def Sig.key (m : Sig) : String := m.cls ++ " " ++ m.name ++ " " ++ m.desc

def Sig.rule (m : Sig) : String := m.cls ++ "-" ++ m.name ++ "-" ++ m.desc

structure Call where
 (src dst : Sig)
 offset : Nat
 deriving DecidableEq

/-- A method that a thread runs, with the constructors of its class. -/
structure ThreadBody where
 body : Sig
 constructors : List Sig
 deriving DecidableEq, Inhabited

structure Facts where
 /-- The methods of the file that call or are called. -/
 called : List Sig
 (calls invokes makings loads : List Call)
 protected' : List (String × Call)
 threads : List ThreadBody
 deriving DecidableEq

structure Components where
 (activities services receivers : List String)

def callOf (p : Path) : Query Call :=
 return ⟨.ofTriple (<- names p.src), .ofTriple (<- names (p.dst.getD 0)), p.offset⟩

def threadParents : List String := ["Ljava/lang/Thread;", "Ljava/util/TimerTask;"]

/-- The bodies of threads in classes, among methods. -/
def ThreadBody.among (cs : List ClassDef) (ms : List Sig) : List ThreadBody :=
 let starting lead c := ms.filter fun m => Text.startsWith m.name lead && m.cls == c.title
 (cs.filter (threadParents.contains ·.parent)).flatMap fun c =>
  (starting "run" c).map fun m => ⟨m, starting "<init>" c⟩

def threadBodies : Query (List ThreadBody) := do
 let d <- file
 return ThreadBody.among (<- look File.classDefs) ((<- look File.methods).map fun r => .of (d.methodAt r))

def Facts.gather : Query Facts := do
 let called <- calledMethods
 let calls <- (<- internalCalls).mapM callOf
 let invokes <- (<- hiddenCalls).mapM callOf
 let makings <- (<- hiddenMakings).mapM callOf
 let needs <- neededByCalls []
 let protected' <- (needs.flatMap fun (perm, ps) => ps.filterMap fun
  | .call p => some (perm, p)
  | .field _ _ _ _ => none).mapM fun (perm, p) => return (perm, <- callOf p)
 let loads <- (<- codeLoading).mapM callOf
 return {
  called := called.map .ofTriple, calls, invokes, makings, loads, protected'
  threads := <- threadBodies }

/-! # Call graphs

Nodes are methods, classes and marks of what matters about a call. A node is known by its key.
-/

inductive NodeKind where
 | method | constructor | staticInitializer | hiddenCall | hiddenMaking | cls
 | load | loadedFile | activity | service | receiver | permission
 deriving DecidableEq, Inhabited

namespace NodeKind

def name : NodeKind -> String
 | method => "method"
 | constructor => "constructor"
 | staticInitializer => "static_initializer"
 | hiddenCall => "refl_invoke"
 | hiddenMaking => "refl_newinstance"
 | cls => "fake_class"
 | load => "fake_dexload"
 | loadedFile => "fake_dexload_filename"
 | activity => "fake_activity"
 | service => "fake_service"
 | receiver => "fake_receiver"
 | permission => "fake_permission"

def colour : NodeKind -> Nat × Nat × Nat
 | method => (100, 100, 100)
 | constructor => (150, 150, 150)
 | staticInitializer => (200, 200, 200)
 | hiddenCall => (0, 255, 0)
 | hiddenMaking => (0, 128, 0)
 | cls => (0, 0, 0)
 | load => (255, 0, 0)
 | loadedFile => (255, 0, 255)
 | activity => (255, 255, 0)
 | service => (240, 230, 140)
 | receiver => (255, 165, 0)
 | permission => (0, 0, 255)

def ofSig (name : String) : NodeKind :=
 if name == "<clinit>" then .staticInitializer
 else if name == "<init>" then .constructor
 else .method

end NodeKind

structure Node where
 kind : NodeKind
 (key label : String)
 /-- Does the node stand for code, or is it only a mark? -/
 real : Bool
 (cls method desc permission level loaded : Option String)
 deriving DecidableEq, Inhabited

structure Graph where
 nodes : List Node
 links : Digraph
 entries : List Nat

def Graph.empty : Graph := ⟨[], .empty, []⟩

/-- A step in the making of a graph. What was made before a failure stays. -/
abbrev Build := ExceptT Fault (StateM Graph)

namespace Build

variable (n : Nat) (kind : NodeKind) (m : Sig)

def find? (key : String) : Build (Option Nat) := return (<- get).nodes.findIdx? (·.key == key)

def node (key label : String) (real : Bool) : Build Nat := do
 match <- find? key with
 | some i => return i
 | none =>
  let n := (<- get).nodes.length
  modify fun g => { g with
   nodes := g.nodes ++ [⟨kind, key, label, real, none, none, none, none, none, none⟩] }
  return n

def methodNode : Build Nat := node kind m.key m.key true

def update (f : Node -> Node) : Build Unit := modify fun g => { g with nodes := g.nodes.modify n f }

def belongs : Build Unit :=
 update n fun x => { x with cls := m.cls, method := m.name, desc := m.desc }

def place : Build Unit := modify fun g => { g with links := g.links.addNode n }

def edge (u v : Nat) : Build Unit := modify fun g => { g with links := g.links.addEdge u v }

def entry : Build Unit := modify fun g => { g with entries := g.entries ++ [n] }

def protect (perm : String) : Build Unit := do
 update n fun x => { x with permission := some perm }
 match Permission.level? perm with
 | some l => update n fun x => { x with level := l }
 | none => throw .noKey

end Build

namespace Graph

variable (g : Graph)

def realCount : Nat := (g.nodes.filter (·.real)).length

def protectedCount : Nat := (g.nodes.filter (·.level.isSome)).length

def levelCount (level : String) : Nat := (g.nodes.filter (·.level == some level)).length

def nodeCount : Nat := g.links.nodes.length

def edgeCount : Nat := g.links.edges.length

end Graph

end DexLens.CallGraph
