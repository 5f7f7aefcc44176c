import DexLens.Network.Spanning

/-! # Matchings of greatest weight

Numbers from the number of vertices on stand for blossoms: alternating cycles of odd length shrunk to one vertex.
Vertices at even distance from a free vertex have the label one, those at odd distance two.
-/

namespace DexLens.Network.Matching

open List Num

variable (b : Nat) (v : Nat) (maxCardinality integral : Bool) (w : Nat) (g : Graph)

structure Blossom where
 childs : Array Nat := #[]
 edges : Array (Nat × Nat) := #[]
 best : Option (List (Nat × Nat)) := none
 alive : Bool := true
 dual : Num := 0
 deriving Inhabited

structure Vertex where
 mate : Option Nat := none
 label : Option Nat := none
 labelEdge : Option (Nat × Nat) := none
 inBlossom : Nat
 parent : Option Nat := none
 base : Nat
 best : Option (Nat × Nat) := none
 dual : Num := 0

structure State where
 count : Nat
 mated : List Nat := []
 vertices : Array Vertex
 blossoms : Array Blossom := #[]
 allowed : List (Nat × Nat) := []
 queue : List Nat := []
 weight : Nat -> Nat -> Res Num
 nbrs : Array (List Nat)

def State.lowest (s : State) : Num :=
 let ds := s.vertices.toList.take s.count |>.map (·.dual)
 ds.foldl min (ds.headD 0)

abbrev Step := StateT State Res

def assert (b : Bool) : Step Unit := if b then pure () else throw .broken

def isBlossom : Step Bool := return (<- get).count ≤ b

def blossom : Step Blossom := do
 let s <- get
 return s.blossoms[b - s.count]?.getD default

def setBlossom (x : Blossom) : Step Unit := modify fun s => { s with blossoms := s.blossoms.setIfInBounds (b - s.count) x }

def vertex : Step Vertex := return (<- get).vertices.getD v { inBlossom := v, base := v }

def change (f : Vertex -> Vertex) : Step Unit := modify fun s => { s with vertices := s.vertices.modify v f }

def labelOf : Step (Option Nat) := (·.label) <$> vertex v

def setLabel (label : Option Nat) : Step Unit := change v ({ · with label })

def labelEdgeOf : Step (Option (Nat × Nat)) := (·.labelEdge) <$> vertex v

def entry : Step (Nat × Nat) := do opt .badKind (<- labelEdgeOf v)

def setLabelEdge (labelEdge : Option (Nat × Nat)) : Step Unit := change v ({ · with labelEdge })

def setBest (best : Option (Nat × Nat)) : Step Unit := change v ({ · with best })

def bestOf : Step (Option (Nat × Nat)) := (·.best) <$> vertex v

def inBlossom : Step Nat := (·.inBlossom) <$> vertex v

def setInBlossom (inBlossom : Nat) : Step Unit := change v ({ · with inBlossom })

def parentOf : Step (Option Nat) := (·.parent) <$> vertex v

def setParent (parent : Option Nat) : Step Unit := change v ({ · with parent })

def baseOf : Step Nat := (·.base) <$> vertex v

def mateOf : Step (Option Nat) := (·.mate) <$> vertex v

def setMate : Step Unit := do
 change v ({ · with mate := w })
 modify fun s => { s with mated := if s.mated.contains v then s.mated else s.mated ++ [v] }

def allow (v w : Nat) : Step Unit := modify fun s => { s with allowed := (v, w) :: (w, v) :: s.allowed }

def dualOf : Step Num := (·.dual) <$> vertex v

def slack (e : Nat × Nat) : Step Num := return (<- dualOf e.1) + (<- dualOf e.2) - 2 * (<- (<- get).weight e.1 e.2)

def leavesOf (s : State) : Nat -> Nat -> List Nat
 | 0, _ => []
 | fuel + 1, b =>
  if s.count ≤ b then (s.blossoms[b - s.count]?.getD default).childs.toList.flatMap (leavesOf s fuel)
  else [b]

def leaves : Step (List Nat) := do
 let s <- get
 return leavesOf s (s.count + 2) b

def mark (v : Option Nat) (label : Nat) : Step Unit := do
 let b <- inBlossom w
 assert ((<- labelOf w).isNone && (<- labelOf b).isNone)
 for x in [w, b] do
  setLabel x label
  setLabelEdge x (v.map (·, w))
  setBest x none

def assignEven (v : Option Nat) : Step Unit := do
 let b <- inBlossom w
 mark w v 1
 let more <- leaves b
 modify fun s => { s with queue := s.queue ++ more }

def assignOdd (w v : Nat) : Step Unit := do
 mark w v 2
 let base <- baseOf (<- inBlossom w)
 assignEven (<- opt .noKey (<- mateOf base)) base

def scan (v w : Nat) : Step (Option Nat) := do
 let mut path := []
 let mut base := none
 let mut v := some v
 let mut w := some w
 let n := (<- get).count
 for _ in [0:4 * n + 4] do
  let some x := v | break
  let b <- inBlossom x
  let l := (<- labelOf b).getD 0
  if l ≥ 4 then
   base := some (<- baseOf b)
   break
  assert (l == 1)
  path := b :: path
  setLabel b (some 5)
  match <- labelEdgeOf b with
  | none =>
   assert (<- mateOf (<- baseOf b)).isNone
   v := none
  | some e =>
   assert ((<- mateOf (<- baseOf b)) == some e.1)
   let c <- inBlossom e.1
   assert ((<- labelOf c) == some 2)
   v := some (<- entry c).1
  if w.isSome then (v, w) := (w, v)
 for b in path do setLabel b (some 1)
 return base

def trace (b bb start : Nat) (turn : Bool) : Step (List Nat × List (Nat × Nat)) := do
 let mut path := []
 let mut edges := []
 let mut bv <- inBlossom start
 for _ in [0:(<- get).vertices.size + 1] do
  if bv == bb then break
  setParent bv b
  path := path ++ [bv]
  let e <- entry bv
  edges := edges ++ [if turn then (e.2, e.1) else e]
  let l <- labelOf bv
  assert (l == some 2 || (l == some 1 && (<- mateOf (<- baseOf bv)) == e.1))
  bv <- inBlossom e.1
 return (path, edges)

def edgesFrom (bv : Nat) : Step (List (Nat × Nat)) := do
 let s <- get
 let around v := ((s.nbrs.getD v []).filter (· != v)).map (v, ·)
 if <- isBlossom bv then
  let x <- blossom bv
  let some es := x.best | return (<- leaves bv).flatMap around
  setBlossom bv { x with best := none }
  return es
 else return around bv

def bestEdges (path : List Nat) : Step (List (Nat × Nat)) := do
 let mut best := []
 for bv in path do
  for k in <- edgesFrom bv do
   let (i, j) := if (<- inBlossom k.2) == b then (k.2, k.1) else k
   let bj <- inBlossom j
   if bj != b && (<- labelOf bj) == some 1 then
    let some old := best.lookup bj | best := best ++ [(bj, k)]
    if (<- slack (i, j)).lt (<- slack old) then best := best.map fun p => if p.1 == bj then (bj, k) else p
  setBest bv none
 return best.map (·.2)

def addBlossom (base v w : Nat) : Step Unit := do
 let bb <- inBlossom base
 let s <- get
 let b := s.count + s.blossoms.size
 set { s with
  blossoms := s.blossoms.push {}
  vertices := s.vertices.push { inBlossom := b, base } }
 setParent bb (some b)
 let (p, pe) <- trace b bb v false
 let (q, qe) <- trace b bb w true
 let path := (p ++ [bb]).reverse ++ q
 let edges := ((v, w) :: pe).reverse ++ qe
 setBlossom b { childs := path.toArray, edges := edges.toArray }
 assert ((<- labelOf bb) == some 1)
 setLabel b (some 1)
 setLabelEdge b (<- labelEdgeOf bb)
 for x in <- leaves b do
  if (<- labelOf (<- inBlossom x)) == some 2 then modify fun s => { s with queue := s.queue ++ [x] }
  setInBlossom x b
 let best <- bestEdges b path
 setBlossom b { <- blossom b with best := some best }
 let mut mine := none
 for k in best do
  let d <- slack k
  let some (_, old) := mine | mine := some (k, d)
  if d.lt old then mine := (k, d)
 setBest b (mine.map (·.1))

def around {α : Type} [Inhabited α] (xs : Array α) (j : Int) : α := xs.getD (if j < 0 then j + xs.size else j).toNat default

def Blossom.edge (x : Blossom) (odd : Bool) (j : Int) : Nat × Nat :=
 if odd then around x.edges j else (around x.edges (j - 1)).swap

def relabel : Step Unit := do
 let x <- blossom b
 let (v0, w0) <- entry b
 let entryChild <- inBlossom w0
 let at0 : Int := x.childs.findIdx (· == entryChild)
 let odd := at0 % 2 == 1
 let mut j := if odd then at0 - x.childs.size else at0
 let step := if odd then 1 else -1
 let mut v := v0
 let mut w := w0
 for _ in [0:x.childs.size] do
  if j == 0 then break
  let (p, q) := x.edge odd j
  setLabel w none
  setLabel q none
  assignOdd w v
  allow p q
  j := j + step
  (v, w) := x.edge odd j
  allow v w
  j := j + step
 let bw := around x.childs j
 for y in [w, bw] do
  setLabel y (some 2)
  setLabelEdge y (some (v, w))
 setBest bw none
 j := j + step
 for _ in [0:x.childs.size] do
  let bv := around x.childs j
  if bv == entryChild then break
  if (<- labelOf bv) == some 1 then
   j := j + step
   continue
  let ls <- leaves bv
  let marked <- ls.filterM fun y => return (<- labelOf y).isSome
  if let y :: _ := marked then
   assert ((<- labelOf y) == some 2)
   assert ((<- inBlossom y) == bv)
   setLabel y none
   setLabel (<- opt .noKey (<- mateOf (<- baseOf bv))) none
   assignOdd y (<- entry y).1
  j := j + step

def expand (final : Bool) : Nat -> Nat -> Step Unit
 | 0, _ => pure ()
 | fuel + 1, b => do
  for c in (<- blossom b).childs do
   setParent c none
   if <- isBlossom c then
    if final && (<- blossom c).dual.isZero then expand final fuel c
    else for v in <- leaves c do setInBlossom v c
   else setInBlossom c c
  if !final && (<- labelOf b) == some 2 then relabel b
  setLabel b none
  setLabelEdge b none
  setBest b none
  setBlossom b { <- blossom b with alive := false }

def augmentBlossom : Nat -> Nat -> Nat -> Step Unit
 | 0, _, _ => pure ()
 | fuel + 1, b, v => do
  let mut t := v
  for _ in [0:(<- get).vertices.size + 1] do
   let some p <- parentOf t | break
   if p == b then break else t := p
  if <- isBlossom t then augmentBlossom fuel t v
  let x <- blossom b
  let i := x.childs.findIdx (· == t)
  let odd := i % 2 == 1
  let mut j := if odd then (i : Int) - x.childs.size else i
  let step := if odd then 1 else -1
  for _ in [0:x.childs.size] do
   if j == 0 then break
   j := j + step
   let (w, y) := x.edge odd j
   let c := around x.childs j
   if <- isBlossom c then augmentBlossom fuel c w
   j := j + step
   let c := around x.childs j
   if <- isBlossom c then augmentBlossom fuel c y
   setMate w y
   setMate y w
  let turn {α : Type} (xs : Array α) : Array α := (xs.toList.drop i ++ xs.toList.take i).toArray
  setBlossom b { <- blossom b with childs := turn x.childs, edges := turn x.edges }
  let first <- baseOf ((turn x.childs).getD 0 0)
  change b ({ · with base := first })
  assert (first == v)

def augment (v w : Nat) : Step Unit := do
 let fuel := (<- get).vertices.size + 1
 for (s0, j0) in [(v, w), (w, v)] do
  let mut s := s0
  let mut j := j0
  for _ in [0:fuel] do
   let bs <- inBlossom s
   assert ((<- labelOf bs) == some 1)
   let m <- mateOf (<- baseOf bs)
   (<- labelEdgeOf bs).elim (assert m.isNone) fun e => assert (m == e.1)
   if <- isBlossom bs then augmentBlossom fuel bs s
   setMate s j
   let some e <- labelEdgeOf bs | break
   let bt <- inBlossom e.1
   assert ((<- labelOf bt) == some 2)
   (s, j) <- entry bt
   assert ((<- baseOf bt) == e.1)
   if <- isBlossom bt then augmentBlossom fuel bt j
   setMate j s

def look (v w : Nat) : Step Bool := do
 if w == v then return false
 let bv <- inBlossom v
 let bw <- inBlossom w
 if bv == bw then return false
 let mut gap := 0
 if !(<- get).allowed.contains (v, w) then
  gap <- slack (v, w)
  if gap.le 0 then allow v w
 if (<- get).allowed.contains (v, w) then
  match <- labelOf bw with
  | none => assignOdd w v
  | some 1 =>
   if let some base <- scan v w then addBlossom base v w
   else
    augment v w
    return true
  | some l =>
   if (<- labelOf w).isNone then
    assert (l == 2)
    setLabel w (some 2)
    setLabelEdge w (v, w)
 else if (<- labelOf bw) == some 1 then improve bv gap
 else if (<- labelOf w).isNone then improve w gap
 return false
where
 improve x (gap : Num) : Step Unit := do
  let some e <- bestOf x | setBest x (some (v, w))
  if gap.lt (<- slack e) then setBest x (some (v, w))

def drain : Nat -> Step Bool
 | 0 => return false
 | fuel + 1 => do
  let some v := (<- get).queue.getLast? | return false
  modify fun s => { s with queue := s.queue.dropLast }
  assert ((<- labelOf (<- inBlossom v)) == some 1)
  for w in (<- get).nbrs.getD v [] do if <- look v w then return true
  drain fuel

inductive Change where
 | stop
 | tighten (e : Nat × Nat)
 | open_ (b : Nat)

def leastChange : Step (Num × Change) := do
 let s <- get
 let lowest := s.lowest
 let mut best := if maxCardinality then none else some (lowest, .stop)
 let better (d : Num) (best : Option (Num × Change)) := best.elim true fun (old, _) => d.lt old
 for v in range s.count do
  if (<- labelOf (<- inBlossom v)).isNone then
   if let some e <- bestOf v then
    let d <- slack e
    if better d best then best := some (d, .tighten e)
 for b in range (s.count + s.blossoms.size) do
  let alive := b < s.count || (<- blossom b).alive
  if alive && (<- parentOf b).isNone && (<- labelOf b) == some 1 then
   if let some e <- bestOf b then
    let k <- slack e
    let d <- match integral, k with
     | true, .int i => do
      assert (i % 2 == 0)
      pure (int (.fdiv i 2))
     | _, k => pure (.float (k.toFloat / 2.0))
    if better d best then best := some (d, .tighten e)
 for i in range s.blossoms.size do
  let b := s.count + i
  let x <- blossom b
  if x.alive && (<- parentOf b).isNone && (<- labelOf b) == some 2 && better x.dual best then
   best := some (x.dual, .open_ b)
 return best.getD (max 0 lowest, .stop)

def changeDuals (d : Num) : Step Unit := do
 let s <- get
 for v in range s.count do
  match <- labelOf (<- inBlossom v) with
  | some 1 => change v fun x => { x with dual := x.dual - d }
  | some 2 => change v fun x => { x with dual := x.dual + d }
  | _ => pure ()
 for i in range s.blossoms.size do
  let b := s.count + i
  let x <- blossom b
  if x.alive && (<- parentOf b).isNone then
   match <- labelOf b with
   | some 1 => setBlossom b { x with dual := x.dual + d }
   | some 2 => setBlossom b { x with dual := x.dual - d }
   | _ => pure ()

def stage : Step Bool := do
 modify fun s => { s with
  vertices := s.vertices.map ({ · with label := none, labelEdge := none, best := none })
  blossoms := s.blossoms.map fun x => { x with best := none }
  allowed := []
  queue := [] }
 let n := (<- get).count
 for v in range n do if (<- mateOf v).isNone && (<- labelOf (<- inBlossom v)).isNone then assignEven v none
 let mut grown := false
 for _ in [0:10 * (n + 2) * (n + 2)] do
  grown <- drain (10 * (n + 2) * (n + 2))
  if grown then break
  let (d, change) <- leastChange maxCardinality integral
  changeDuals d
  match change with
  | .stop => break
  | .tighten e =>
   assert ((<- labelOf (<- inBlossom e.1)) == some 1)
   allow e.1 e.2
   modify fun s => { s with queue := s.queue ++ [e.1] }
  | .open_ b => expand false (n + 2) b
 return grown

def tidy : Step Unit := do
 let s <- get
 for i in range s.blossoms.size do
  let b := s.count + i
  let x <- blossom b
  if x.alive && (<- parentOf b).isNone && (<- labelOf b) == some 1 && x.dual.isZero then expand true (s.count + 2) b

def chain : Step (List Nat) := do
 let mut out := [v]
 let mut x := v
 for _ in [0:(<- get).vertices.size + 1] do
  let some p <- parentOf x | break
  out := p :: out
  x := p
 return out

def verify (maxCardinality : Bool) (edges : List (Nat × Nat × Num)) : Step Unit := do
 let s <- get
 let lowest := s.lowest
 let offset := if maxCardinality then max 0 (-lowest) else 0
 assert (le 0 (lowest + offset))
 assert (s.blossoms.all fun x => !x.alive || le 0 x.dual)
 for (i, j, w) in edges do
  if i != j then
   let mut gap := (<- dualOf i) + (<- dualOf j) - 2 * w
   for (bi, bj) in (<- chain i).zip (<- chain j) do
    if bi != bj then break
    gap := gap + 2 * (<- blossom bi).dual
   assert (le 0 gap)
   if (<- mateOf i) == j || (<- mateOf j) == i then
    assert ((<- mateOf i) == j && (<- mateOf j) == i)
    assert gap.isZero
 for v in range s.count do assert ((<- mateOf v).isSome || ((<- dualOf v) + offset).isZero)

def run (edges : List (Nat × Nat × Num)) : Step Unit := do
 let n := (<- get).count
 for _ in [0:n + 2] do if <- stage maxCardinality integral then tidy else break
 if integral then verify maxCardinality edges

def greatest (maxCardinality : Bool) : Res (Table Value) := do
 let ns := g.verts.toArray
 if ns.isEmpty then return []
 let index v := g.verts.findIdx (· == v)
 let edges <- g.edges.mapM fun e => do return (index e.src, index e.dst, <- (e.get "weight" 1).num)
 let top := edges.foldl (fun m (i, j, w) => if i != j && lt m w then w else m) (0 : Num)
 let integral := g.edges.all fun e => if let .int _ := e.get "weight" 1 then true else false
 let n := ns.size
 let s := {
  count := n
  vertices := (Array.range n).map fun v => { inBlossom := v, base := v, dual := top }
  weight := fun i j => do
   ((<- opt .noKey (g.bundle? (ns.getD i .null) (ns.getD j .null))).items.getD "weight" 1).num
  nbrs := ns.map fun v => (g.nbrs v).map index }
 let (_, s) <- (run maxCardinality integral edges).run s
 return s.mated.filterMap fun v => (s.vertices[v]?.bind (·.mate)).map (ns.getD v .null, ns.getD · .null)

def maximal : Pairs :=
 let ends (es : List Edge) : Pairs := es.map fun e => (e.src, e.dst)
 let among u v (es : Pairs) : Bool := es.any fun (a, b) => a == u && b == v
 (g.edges.foldl (fun acc e =>
  let (u, v) := (e.src, e.dst)
  if among u v acc.2 || among v u acc.2 then acc
  else (acc.1 ++ [(u, v)], acc.2 ++ ends (g.edgesOf [u]) ++ ends (g.edgesOf [v]))) ([], [])).1

def cmds : List Cmd := [
 ⟨"max_weight_matching", "G maxcardinality=False", greatest⟩,
 .of "maximal_matching" "G" fun g _ => return .set ((maximal g).map .couple)]

end DexLens.Network.Matching
