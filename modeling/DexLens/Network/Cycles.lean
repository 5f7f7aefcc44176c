import DexLens.Network.Cliques

/-! # Eccentricity and distance-regular graphs -/

namespace DexLens.Network

open Components Table Value

namespace Graph

variable (g : Graph)

def eccentricityAt (n given : Value) : Res Value := do
 let ds <- match given with
  | .null => do pure ((<- g.distances n .null).map fun (m, d) => (m, nat d))
  | .dict t =>
   match <- get t n with
   | .dict ds => pure ds
   | v => if v.size?.isSome then .error .noPart else fail "Format of \"sp\" is invalid."
  | _ => fail "Format of \"sp\" is invalid."
 if ds.length != g.order then fail "Graph not connected: infinite path length"
 greatest (values ds)

def eccentricities (ns : Vals) (given : Value) : Res Items := ns.mapM fun n => return (n, <- g.eccentricityAt n given)

def irregular {α : Type} (dot : String) : Res α := fail ("Graph is not distance regular" ++ dot)

def intersectionArray : Res (List Nat × List Nat) := do
 if g.multi || g.directed then .error .noPart
 let k :: ks := g.succ.keys.map g.degree | .error .exhausted
 if ks.any (· != k) then irregular "."
 let lengths <- g.allDistances .null
 let dist u v := (lengths.get? u).bind (·.get? v)
 let top := (lengths.flatMap (·.2.values)).foldl max 0
 let mut far := []
 let mut near := []
 for u in g.verts do
  for v in g.verts do
   let some i := dist u v | irregular "."
   let c := ((g.nbrs v).filter fun n => (dist n u).map (· + 1) == i).length
   let b := ((g.nbrs v).filter (dist · u == some (i + 1))).length
   if (near.lookup i).getD c != c || (far.lookup i).getD b != b then irregular ""
   far := (i, b) :: far
   near := (i, c) :: near
 return ((List.range top).map fun i => (far.lookup i).getD 0, (List.range top).map fun i => (near.lookup (i + 1)).getD 0)

end Graph

namespace Eccentricity

variable (pick : Vals -> Res Value) (a : Args)

def table : Work Items := do
 if a.isNull 1 then
  let g <- a.graph
  g.eccentricities g.succ.keys .null
 else a.dict 1

def extreme : Work Value := do pick (<- table a).values

def extremeNodes : Work Value := do
 let t <- table a
 return keys (t.filter (·.2 == (<- pick t.values)))

def cmds : List Cmd := [
 .of "eccentricity" "G v? sp?" fun g a => do
  let (ns, one) <- a.nodes g 1
  let t <- g.eccentricities ns (a 2)
  if one then return <- t.get (a 1)
  return .dict (ofList t),
 ⟨"diameter", "G e?", extreme greatest⟩,
 ⟨"periphery", "G e?", extremeNodes greatest⟩,
 ⟨"radius", "G e?", extreme least⟩,
 ⟨"center", "G e?", extremeNodes least⟩,
 .of "is_distance_regular" "G" fun g _ => do
  match g.intersectionArray with
  | .ok _ => return .bool true
  | .error (.graph .fail _) => return .bool false
  | .error f => throw f,
 ⟨"global_parameters", "b c", fun a => do
  let (.list b, .list c) := (a 0, a 1) | throw .noPart
  let ba := b ++ [0]
  let ca := (0 : Value) :: c
  let k <- (ba.headD 0).num
  let aa <- (ba.zip ca).mapM fun (x, y) => return k - (<- x.num) - (<- y.num)
  return .list ((ca.zip (aa.zip ba)).map fun (x, y, z) => .tuple [x, y, z])⟩,
 .of "intersection_array" "G" fun g _ => do
  let (b, c) <- g.intersectionArray
  return .tuple [.list (b.map nat), .list (c.map nat)]]

end Eccentricity

/-! # Cycles and circuits -/

namespace Graph

variable (g : Graph) (s : CircuitState) (g : Graph)

def isEulerian : Res Bool := do
 if g.directed then
  if g.verts.any fun n => g.inDegree n != g.outDegree n then return false
  g.isStronglyConnected
 else
  if g.verts.any (g.degree · % 2 != 0) then return false
  g.isConnected

def eulerianCircuit (src : Value) (items : Value -> Option Vals) : Res Pairs:= do
 if !(<- g.isEulerian) then fail "G is not Eulerian."
 let mut h <- g.rebuilt
 let start := if src.isNull then h.verts.headD .null else src
 let mut stack := [start]
 let mut last := .null
 let mut out := #[]
 for _ in [0:2 * (g.size + g.order) + 4] do
  let v :: rest := stack | break
  let side := if g.directed then .entering else .both
  if (<- h.degreeView side v .null (items v)) == 0 then
   if !last.isNull then out := out.push (last, v)
   last := v
   stack := rest
  else
   let ns <- h.bunch v (items v)
   let e :: _ := if g.directed then h.inEdgesOf ns else h.edgesOf ns | return out.toList
   stack := (if g.directed then e.src else e.dst) :: stack
   h := h.removeEdge e.src e.dst
 return out.toList

structure BasisState where
 pred : Table Value
 used : Table Vals
 stack : Vals
 cycles : Array Vals

def climb (pred : Table Value) (ends : Vals) : Nat -> Value -> Vals
 | 0, _ => []
 | fuel + 1, p => if ends.contains p then [p] else p :: climb pred ends fuel (pred.getD p .null)

def BasisState.look (s : BasisState) (z nbr : Value) : BasisState :=
 match s.used.get? nbr with
 | none => { s with pred := s.pred.put nbr z, stack := nbr :: s.stack, used := s.used.put nbr [z] }
 | some pn =>
  if nbr == z then { s with cycles := s.cycles.push [z] }
  else if (s.used.getD z []).contains nbr then s
  else
   let back := climb s.pred pn (s.pred.length + 1) (s.pred.getD z .null)
   { s with cycles := s.cycles.push ([nbr, z] ++ back), used := s.used.put nbr (including pn z) }

def cycleBasis (root : Value) : Res (List Vals) := do
 let mut left := g.verts
 let mut root := root
 let mut cycles := #[]
 for _ in [0:g.order + 1] do
  if left.isEmpty then break
  if root.isNull then root := left.headD .null
  let mut s : BasisState := ⟨[(<- root.key, root)], [(root, [])], [root], cycles⟩
  for _ in [0:g.order + 1] do
   let z :: rest := s.stack | break
   s := (<- g.row z).keys.foldl (·.look z ·) { s with stack := rest }
  cycles := s.cycles
  left := without left (root :: s.pred.keys)
  root := .null
 return cycles.toList

structure CircuitState where
 (path blocked : Vals)
 closed : Vals := []
 waiting : Table Vals := []
 stack : List (Value × Vals)
 out : Array Vals

def CircuitState.unblock (s : CircuitState) : Nat -> Vals -> CircuitState
 | 0, _ => s
 | _, [] => s
 | fuel + 1, n :: ns =>
  if s.blocked.contains n then
   let more := s.waiting.getD n []
   { s with
    blocked := s.blocked.filter (· != n)
    waiting := s.waiting.put n [] }.unblock fuel (ns ++ more)
  else s.unblock fuel ns

def CircuitState.leave (v : Value) : CircuitState :=
 let s :=
  if s.closed.contains v then s.unblock g.bound [v]
  else { s with waiting := (g.nbrs v).foldl (fun t nbr => change t nbr [] (including · v)) s.waiting }
 { s with stack := s.stack.drop 1, path := s.path.dropLast }

def CircuitState.step (start : Value) : CircuitState :=
 match s.stack with
 | [] => s
 | (v, nbrs) :: rest =>
  match nbrs with
  | [] => s.leave g v
  | next :: nbrs =>
   let s := { s with stack := (v, nbrs) :: rest }
   if next == start then
    let s := { s with out := s.out.push s.path, closed := s.path.foldl including s.closed }
    if nbrs.isEmpty then s.leave g v else s
   else if !s.blocked.contains next then
    { s with
     path := s.path ++ [next]
     stack := (next, (g.nbrs next).reverse) :: s.stack
     closed := s.closed.filter (· != next)
     blocked := next :: s.blocked }
   else if nbrs.isEmpty then s.leave g v
   else s

def simpleCycles : Res (List Vals) := do
 if g.bare then .error .unknownName
 let mut sub := g.edges.foldl (fun h e => h.addEdge e.src e.dst) g.emptyLike
 let mut sccs := sub.strongParts.reverse
 let mut out := #[]
 for _ in [0:2 * g.order + 2] do
  let scc :: rest := sccs | break
  let start := scc.getLastD .null
  let mut s : CircuitState := {
   path := [start], blocked := [start], stack := [(start, (sub.nbrs start).reverse)], out }
  for _ in [0:1000000] do
   if s.stack.isEmpty then break
   s := s.step sub start
  out := s.out
  sub := sub.removeNode start
  sccs := (sub.subgraph scc.dropLast).strongParts.reverse ++ rest
 return out.toList

structure RecursiveState where
 blocked : Vals := []
 waiting : Table Vals := []
 out : Array Vals := #[]

def RecursiveState.unblock (s : RecursiveState) : Nat -> Value -> RecursiveState
 | 0, _ => s
 | fuel + 1, v =>
  if s.blocked.contains v then
   let more := s.waiting.getD v []
   let s := { s with
    blocked := s.blocked.filter (· != v)
    waiting := s.waiting.put v [] }
   more.reverse.foldl (·.unblock fuel ·) s
  else s

def circuit (g : Graph) (start : Value) : Nat -> RecursiveState -> Vals -> Value -> RecursiveState × Bool
 | 0, s, _, _ => (s, false)
 | fuel + 1, s, path, v =>
  let path := path ++ [v]
  let s := { s with blocked := v :: s.blocked }
  let (s, closed) := (g.nbrs v).foldl (fun acc next =>
   let (s, closed) := acc
   if next == start then ({ s with out := s.out.push path }, true)
   else if s.blocked.contains next then (s, closed)
   else
    let (s, found) := g.circuit start fuel s path next
    (s, closed || found)) (s, false)
  if closed then (s.unblock (g.order + 1) v, true)
  else
   ({ s with waiting := (g.nbrs v).foldl (fun t next => change t next [] (including · v)) s.waiting }, false)

def simpleCyclesRecursive : List Vals :=
 let position n : Nat := g.verts.findIdx (· == n)
 let first c : Nat := (c.map position).foldl min g.order
 let final := g.verts.zipIdx.foldl (fun (s : RecursiveState) (_, i) =>
  let parts := (g.subgraph (g.verts.drop i)).strongParts
  match parts with
  | [] => s
  | c :: cs =>
   let least := cs.foldl (fun best d => if first d < first best then d else best) c
   let part := g.subgraph least
   let start := g.verts[first least]?.getD .null
   let s := { s with
    blocked := without s.blocked least
    waiting := least.foldl (put · · []) s.waiting }
   (part.circuit start (g.order + 1) s [] start).1) {}
 final.out.toList

end Graph

def Cycles.cmds : List Cmd := [
 ⟨"is_eulerian", "G", Graph.isEulerian⟩,
 ⟨"eulerian_circuit", "G source?", fun a => do
  let lab <- get
  return Traverse.pairs (<- (<- a.graph).eulerianCircuit (a 1) lab.items?)⟩,
 ⟨"cycle_basis", "G root?", fun a => do
  discard (a.graphNot "directed")
  return lists (<- (<- a.graphNot "multigraph").cycleBasis (a 1))⟩,
 ⟨"simple_cycles", "G", fun a => return lists (<- (<- a.graphNot "undirected").simpleCycles)⟩,
 ⟨"recursive_simple_cycles", "G", fun a => return lists (<- a.graphNot "undirected").simpleCyclesRecursive⟩]

end DexLens.Network
