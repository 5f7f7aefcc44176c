import DexLens.Fault
import DexLens.Word

/-! # Flow nets

A node that is removed loses the ways into it, but its own ways out stay on record.
-/

namespace DexLens.Source

/-- A table in which what stands at a key is changed, or stands there from now on. -/
def revise {κ α : Type} [BEq κ] (t : List (κ × α)) (k : κ) (f : α -> α) (new : α) : List (κ × α) :=
 if t.any (·.1 == k) then t.map fun p => if p.1 == k then (k, f p.2) else p else t ++ [(k, new)]

structure Net where
 nodes : List Nat
 (next prev : List (Nat × List Nat))
 deriving Inhabited

namespace Net

variable (g : Net) (n : Nat) (start : Nat) (a b : Nat)

def empty : Net := ⟨[], [], []⟩

def succs : List Nat := (g.next.lookup n).getD []

def preds : List Nat := (g.prev.lookup n).getD []

def update (t : List (Nat × List Nat)) (k : Nat) (f : List Nat -> List Nat) : List (Nat × List Nat) := revise t k f (f [])

def including (ns : List Nat) : List Nat := if ns.contains n then ns else ns ++ [n]

def addNode : Net := { g with nodes := g.nodes ++ [n] }

def addEdge : Net :=
 { g with next := update g.next a (including b), prev := update g.prev b (including a) }

def removeNode : Net :=
 let next := (g.preds n).foldl (update · · (·.erase n)) g.next
 let prev := g.prev.filter (·.1 != n)
 let prev := ((next.lookup n).getD []).foldl (update · · (·.erase n)) prev
 ⟨g.nodes.erase n, next, prev⟩

def visit (g : Net) : Nat -> List Nat × List Nat -> Nat -> List Nat × List Nat
 | 0, st, _ => st
 | depth + 1, (seen, done), n =>
  if seen.contains n then (seen, done)
  else
   let (seen, done) := (g.succs n).foldl (visit g depth) (n :: seen, done)
   (seen, n :: done)

def depth : Nat := g.nodes.length + g.next.length + 2

def rpo : List Nat := (visit g g.depth ([], []) start).2

def postorder : List Nat := (g.rpo start).reverse

def backPath (g : Net) (a : Nat) : Nat -> List Nat -> Nat -> List Nat
 | 0, path, _ => path
 | fuel + 1, path, b =>
  if a = b then path
  else (g.preds b).foldl (fun path p => if path.contains p then path else backPath g a fuel path p) (path ++ [b])

def pathBetween : List Nat := backPath g a g.depth [] b

end Net

abbrev Dominators := List (Nat × Option Nat)

namespace Dominators

variable (t : Dominators) (n : Nat) (g : Net) (num : Nat -> Nat)

def of : Res (Option Nat) := Res.opt .noKey (t.lookup n)

/-- Climb from two nodes, always from the one with the greater number, until they meet. -/
def meet (num : Nat -> Nat) (t : Dominators) : Nat -> Option Nat -> Option Nat -> Res (Option Nat)
 | 0, _, _ => .error .endless
 | fuel + 1, a, b => do
  if a = b then return a
  match a, b with
  | some x, some y =>
   if num x < num y then meet num t fuel a (<- t.of y)
   else if num x > num y then meet num t fuel (<- t.of x) b
   else throw .endless
  | _, _ => throw .noPart

def common (t : Dominators) : Option Nat -> Option Nat -> Res (Option Nat)
 | none, b => .ok b
 | a, none => .ok a
 | some a, some b => meet num t (num a + num b + 2) a b

def put (d : Option Nat) : Dominators := revise t n (fun _ => d) d

/-- Immediate dominators in one sweep over the nodes. Only ways from smaller to greater numbers count. -/
def find (order : List Nat) : Res Dominators :=
 order.foldlM (fun t n =>
  (g.preds n).foldlM (fun t p => do
   if num p < num n then return t.put n (<- common num t (<- t.of n) p) else return t) t)
  (g.nodes.map (·, none))

/-- Every node on the way from a predecessor of `n` up to its dominator has `n` in its frontier. -/
def frontierFrom (t : Dominators) (n : Nat) (stop : Option Nat) :
 Nat -> Option Nat -> List (Nat × List Nat) -> Res (List (Nat × List Nat))
 | 0, _, _ => .error .endless
 | fuel + 1, runner, fs => do
  if runner = stop then return fs
  match runner with
  | none => throw .noKey
  | some r => frontierFrom t n stop fuel (<- t.of r) (Net.update fs r (Net.including n))

def frontiers (t : Dominators) : Res (List (Nat × List Nat)) :=
 g.nodes.foldlM (fun fs n => do
  if (g.preds n).length > 1 then
   let stop <- t.of n
   (g.preds n).foldlM (fun fs p => frontierFrom t n stop (g.nodes.length + 2) (some p) fs) fs
  else return fs) (g.nodes.map (·, []))

def tree : Net :=
 t.foldl (fun g (n, d) =>
  let g := g.addNode n
  match d with
  | some d => g.addEdge d n
  | none => g) Net.empty

end Dominators

end DexLens.Source
