import DexLens.Source.Graph

/-! # Definitions and uses

A place of -1 stands for the value that a parameter has at the start.
-/

namespace DexLens.Source

/-- Places by name and place: for a use the definitions that reach it, for a definition its uses. -/
abbrev Chain := List ((Name × Int) × List Int)

namespace Chain

variable (c : Chain) (n : Name) (loc : Int)

def of? : Option (List Int) := c.lookup (n, loc)

def update (f : List Int -> List Int) : Chain := revise c (n, loc) f (f [])

def drop (gone : Int) : Res Chain :=
 match c.of? n loc with
 | none => .error .noPart
 | some ls => if ls.contains gone then .ok (c.update n loc (·.erase gone)) else .error .badVal

end Chain

structure Defs where
 /-- Per block the names it defines with the places. -/
 inBlock : List (Nat × List (Name × List Int))
 places : List (Name × List Int)

namespace Defs

variable (d : Defs) (n : Nat)

def adding (t : List (Name × List Int)) (n : Name) (loc : Int) : List (Name × List Int) :=
 revise t n (fun ls => if ls.contains loc then ls else ls ++ [loc]) [loc]

def ofBlock (b : Block) : List (Name × List Int) :=
 b.lines.foldl (fun t l =>
  match l.code.target? with
  | some n => adding t n l.loc
  | none => t) []

def find (g : Graph) (params : List Int) : Defs :=
 let start := params.foldl (fun t p => adding t (.reg p) (-1)) []
 let inBlock := g.order.map fun n => (n, ofBlock (g.block n))
 let places := inBlock.foldl (fun t (_, ds) =>
  ds.foldl (fun t (n, ls) => ls.foldl (adding · n ·) t) t) start
 ⟨inBlock, places⟩

def inside : List (Name × List Int) := (d.inBlock.lookup n).getD []

def of (n : Name) : List Int := (d.places.lookup n).getD []

def killed : List Int := (d.inside n).flatMap fun (x, _) => d.of x

def last : List Int := (d.inside n).filterMap fun (_, ls) => ls.max?

end Defs

/-- Which definitions arrive at blocks, and which leave them. -/
structure Reaching where
 (arriving leaving : List (Nat × List Int))
 deriving Inhabited

namespace Reaching

variable (g : Graph) (d : Defs) (t : List (Nat × List Int)) (n : Nat)

def entry : List Int := (t.lookup n).getD []

def put (v : List Int) : List (Nat × List Int) := revise t n (fun _ => v) v

def same (a b : List Int) : Bool := a.all b.contains && b.all a.contains

/-- What arrives at a block: what leaves the blocks before it. At the entry the parameters arrive. -/
def inflow (r : Reaching) (n : Nat) : List Int :=
 let start := if n = g.entry then [-1] else []
 ((g.net.preds n).foldl (· ++ entry r.leaving ·) start).eraseDups

def outflow (arriving : List Int) : List Int :=
 let killed := d.killed n
 (arriving.filter (!killed.contains ·) ++ d.last n).eraseDups

def enqueue (queue : List Nat) (n : Nat) : List Nat :=
 (g.net.succs n).foldl (fun q s => if q.contains s then q else q ++ [s]) queue

def settle (g : Graph) (d : Defs) : Nat -> List Nat -> Reaching -> Reaching
 | 0, _, r => r
 | _, [], r => r
 | fuel + 1, n :: queue, r =>
  let arriving := inflow g r n
  let before := entry r.arriving n
  let (queue, r) :=
   if same arriving before then (queue, r)
   else (enqueue g queue n, { r with arriving := put r.arriving n arriving })
  let leaving := outflow d n (entry r.arriving n)
  let (queue, r) :=
   if same leaving (entry r.leaving n) then (queue, r)
   else (enqueue g queue n, { r with leaving := put r.leaving n leaving })
  settle g d fuel queue r

def find : Reaching :=
 let n := g.order.length
 let places := Total.ofNats (d.places.map (·.2.length))
 settle g d (n + 2 * n * n * (places + 2)) g.order default

end Reaching

def priorPlace (ds : List (Name × List Int)) (n : Name) (loc : Int) : Int :=
 ((ds.lookup n).getD []).foldl (fun prior v => if prior < v && v < loc then v else prior) (-1)

/-- For every use the definitions that reach it. Names that are defined nowhere are left out. -/
def defsOfUses (g : Graph) (d : Defs) (r : Reaching) : Chain :=
 g.order.foldl (fun c n =>
  (g.block n).lines.foldl (fun c l =>
   l.code.used.foldl (fun c x =>
    match d.places.lookup x with
    | none => c
    | some places =>
     let prior := priorPlace (d.inside n) x l.loc
     let arriving := Reaching.entry r.arriving n
     let found := if prior ≥ 0 then [prior] else places.filter arriving.contains
     c.update x l.loc (· ++ found)) c) c) []

def usesOfDefs (ud : Chain) : Chain :=
 ud.foldl (fun c ((x, loc), places) => places.foldl (·.update x · (· ++ [loc])) c) []

def chains (g : Graph) (params : List Int) : Chain × Chain :=
 let d := .find g params
 let ud := defsOfUses g d (.find g d)
 (ud, usesOfDefs ud)

namespace Graph

/-- Put a node before the entry and, if there is an exit, one behind it. -/
def fence (g : Graph) : Graph :=
 let (first, h) := g.create (.make "entry" .plain .plain [])
 let h := { (h.addNode first).addEdge first g.entry with entry := first }
 match g.exit with
 | none => h
 | some x =>
  let (last, h) := h.create (.make "exit" .plain .plain [])
  { (h.addNode last).addEdge x last with order := g.order ++ [last] }

/-- Take the nodes of the fence out, of which the first one is the entry. -/
def unfence (g : Graph) (entry : Nat) : Graph :=
 let h := g.removeNode g.entry
 { if g.exit.isSome then h.removeNode (g.entry + 1) else h with entry }

end Graph

/-- The chains of a graph, which is fenced while they are traced, and the graph afterwards. -/
def traced (g : Graph) (params : List Int) : Graph × Chain × Chain := (g.fence.unfence g.entry, chains g params)

end DexLens.Source
