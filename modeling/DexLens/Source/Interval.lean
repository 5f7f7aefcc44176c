import DexLens.Source.Net

/-! # Intervals

A header with all nodes that can only be entered through nodes of the interval. The intervals of a net form a net
again, until a single node is left.
-/

namespace DexLens.Source

/-- Where a node of some level begins in the first net, where it is left, and all its nodes. -/
structure Site where
 head : Nat
 last : Option Nat
 blob : List Nat
 deriving Inhabited

/-- A net at some level, its nodes in reverse postorder, and what they stand for. -/
structure Level where
 net : Net
 entry : Nat
 order : List Nat
 sites : List (Nat × Site)

def Level.base (net : Net) (entry : Nat) (order : List Nat) : Level :=
 ⟨net, entry, order, net.nodes.map fun n => (n, ⟨n, n, [n]⟩)⟩

def Level.site (l : Level) (n : Nat) : Site := (l.sites.lookup n).getD default

/-- An interval: its header, its nodes, and a node from which it is left. -/
structure Interval where
 head : Nat
 blob : List Nat
 last : Option Nat
 deriving Inhabited

abbrev Pick := List Nat -> Nat

def Pick.oldest : Pick := fun _ => 0

structure Partition where
 intervals : Array Interval
 home : List (Nat × Nat)
 /-- The headers that were found from each interval. -/
 found : List (Nat × Nat)
 pending : List Nat

namespace Partition

variable (p : Partition) (l : Level) (head : Nat)

def sweep (g : Net) (nodes blob : List Nat) : List Nat :=
 nodes.foldl (fun c n => if (g.preds n).all c.contains then Net.including n c else c) blob

def grow (g : Net) (nodes : List Nat) : Nat -> List Nat -> List Nat
 | 0, blob => blob
 | fuel + 1, blob =>
  let content' := sweep g nodes blob
  if content'.length = blob.length then blob else grow g nodes fuel content'

def intervalOf : Interval :=
 let blob := grow l.net (l.order.drop 1) (l.order.length + 1) [head]
 let last := blob.foldl (fun last n => if (l.net.succs n).all blob.contains then last else some n) none
 ⟨head, blob, last⟩

def isHead (n : Nat) : Bool := p.intervals.any (·.head == n)

def open' (p : Partition) (head : Nat) : Partition :=
 let v := intervalOf l head
 let id := p.intervals.size
 let home := v.blob.foldl (fun h n => revise h n (fun _ => id) id) p.home
 l.net.nodes.foldl (fun p n =>
  if !v.blob.contains n && !p.pending.contains n && (l.net.preds n).any v.blob.contains then
   { p with found := p.found ++ [(id, n)], pending := p.pending ++ [n] }
  else p) { p with intervals := p.intervals.push v, home }

def run (pick : Pick) (l : Level) : Nat -> Partition -> Partition
 | 0, p => p
 | fuel + 1, p =>
  match p.pending with
  | [] => p
  | pending =>
   let i := pick pending % pending.length
   let head := pending.getD i 0
   let p := { p with pending := pending.eraseIdx i }
   run pick l fuel (if p.isHead head then p else open' l p head)

def of (pick : Pick) (l : Level) : Partition :=
 let n := l.net.nodes.length
 run pick l (n * n + n + 2) ⟨#[], [], [], [l.entry]⟩

def idOf : Nat := (p.intervals.findIdx? (·.head == head)).getD 0

def net : Net :=
 let g := (List.range p.intervals.size).foldl Net.addNode Net.empty
 let ids := (p.found.map (·.1)).eraseDups
 ids.foldl (fun g i => (p.found.filter (·.1 == i)).foldl (fun g (_, head) => g.addEdge i (p.idOf head)) g) g

def siteOf (v : Interval) : Site :=
 ⟨(l.site v.head).head, v.last.bind fun n => (l.site n).last, v.blob.flatMap fun n => (l.site n).blob⟩

def level : Level :=
 let g := p.net
 let entry := (p.home.lookup l.entry).getD 0
 ⟨g, entry, g.rpo entry, p.intervals.toList.zipIdx.map fun (v, i) => (i, siteOf l v)⟩

end Partition

/-- The levels of a net with their intervals, up to the one whose intervals are a single one. -/
def derivedLevels (pick : Pick) : Nat -> Level -> Res (List (Level × Partition))
 | 0, _ => .error .endless
 | fuel + 1, l => do
  let p := Partition.of pick l
  if p.intervals.size = 1 then return [(l, p)]
  else return (l, p) :: (<- derivedLevels pick fuel (p.level l))

def derivedSequence (pick : Pick) (l : Level) : Res (List (Level × Partition)) :=
 let edges := Total.ofNats (l.net.next.map (·.2.length))
 derivedLevels pick ((l.net.nodes.length + 1) * (edges + 1) + 1) l

end DexLens.Source
