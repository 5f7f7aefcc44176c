import DexLens.Network.Ranking

/-! # What is joined to what -/

namespace DexLens.Network

open Graph

def gathered (xs : Vals) : Vals :=
 let ys := uniq xs
 if ys.all fun y => match y with | .int i => 0 ≤ i | _ => false then
  ys.mergeSort fun a b => match a.num?, b.num? with | some x, some y => x.le y | _, _ => true
 else ys

namespace Graph

variable (g : Graph)

def side (names : List (String × Side)) (name : Value) : Res Side := do
 if !g.directed then return .both
 let .text s <- name.key | .error .noKey
 opt .noKey (names.lookup s)

def oneWay : List (String × Side) := [("out", .leaving), ("in", .entering)]

section

variable (src dst : Side) (back : Bool) (name weight : Value) (ns : Vals)

def anyWay : List (String × Side) := ("in+out", .both) :: oneWay

def weightedDegrees (n : Value) (back : Bool) (ms : Vals) : Res Num := do
 let parts <- (uniq ms).mapM fun m => do
  let d <- (<- g.degreeOf dst .null m).num
  if weight.isNull then return d
  let row := if back then g.data m n else g.data n m
  return (<- (row.getD weight 1).num) * d
 return .sum parts

def averageNeighborDegree : Res (Table Num) :=
 ns.mapM fun n => do
  let d <- (<- g.degreeOf src weight n).num
  let s <- g.weightedDegrees dst weight n false (g.nbrs n)
  return (n, <- s.div (.float (if d.isZero then 1.0 else d.toFloat)))

def averageDegreeConnectivity : Res (Table Num) := do
 let sums <- ns.foldlM (fun (t : Table (Float × Float)) n => do
  let k <- g.degreeOf src .null n
  let s <- g.weightedDegrees dst weight n back (if back then g.conbrs n else g.nbrs n)
  let d <- (<- g.degreeOf src weight n).num
  return t.change k (0, 0) fun (a, b) => (a + s.toFloat, b + d.toFloat)) []
 return sums.map fun (k, sum, norm) => (k, .float (if sum > 0 && norm > 0 then sum / norm else sum))

def degreePairs (x y : Side) (weight : Value) (ns : Vals) : Res Pairs := do
 let rows <- (ns.filter g.hasNode).mapM fun u => do
  let d <- g.degreeOf x weight u
  ((g.edgesOf [u]).filter (ns.contains ·.dst)).mapM fun e => return (d, <- g.degreeOf y weight e.dst)
 return rows.flatten

def attributePairs : Pairs :=
 let attr n := (g.nodeItems n).getD name .null
 (g.succ.filter (ns.contains ·.1)).flatMap fun (u, row) =>
  (rowEdges u row).map (attr u, attr ·.dst)

end

def tally (ps : Pairs) (normalized : Bool) : Res (Table (Table Num)) := do
 let t <- ps.foldlM (fun (t : Table (Table Num)) (x, y) => do
  let x <- x.key
  let y <- y.key
  return (t.change x [] id).change y [] id |>.change x [] (·.change y 0 (· + 1))) []
 if !normalized then return t
 let total := Num.float (ofInt ps.length)
 t.mapM fun (x, row) => return (x, <- row.mapM fun (y, n) => return (y, <- n.div total))

end Graph

namespace Mixing

variable (a : Args) (g : Graph) (i : Nat)

def several : Work Vals := do
 let ns <- g.bunch (a i) (<- a.items? i)
 if g.contains (a i) then throw .noPart
 return uniq ns

def nodeSet : Work Vals := do
 if a.isNull i then return gathered g.verts
 return gathered (<- (<- a.items i).mapM (·.key))

def degreePairs (x y w ns : Nat) : Work Pairs := do
 let g <- a.graph
 let set <- nodeSet a g ns
 g.degreePairs (<- g.side oneWay (a x)) (<- g.side oneWay (a y)) (a w) set

def attributePairs : Work Pairs := do
 let g <- a.graph
 return g.attributePairs (<- (a 1).key) (<- nodeSet a g 2)

def pairs (ps : Pairs) : Value := .list (ps.map .couple)

def connectivity : Work Value := do
 let g <- a.graph
 let src <- g.side anyWay (a 1)
 let dst <- g.side anyWay (a 2)
 return Ranking.table (<- g.averageDegreeConnectivity src dst (src = .entering) (a 4) (<- several a g 3))

def cmds : List Cmd := [
 .of "average_neighbor_degree" "G source=out target=out nodes? weight?" fun g a => do
  let src <- g.side oneWay (a 1)
  return Ranking.table (<- g.averageNeighborDegree src (<- g.side oneWay (a 2)) (a 4) (<- several a g 3)),
 ⟨"average_degree_connectivity", "G source=in+out target=in+out nodes? weight?", connectivity⟩,
 ⟨"k_nearest_neighbors", "G source=in+out target=in+out nodes? weight?", connectivity⟩,
 ⟨"node_degree_xy", "G x=out y=in weight? nodes?", fun a => return pairs (<- degreePairs a 1 2 3 4)⟩,
 ⟨"node_attribute_xy", "G attribute nodes?", fun a => return pairs (<- attributePairs a)⟩,
 ⟨"degree_mixing_dict", "G x=out y=in weight? nodes? normalized=False", fun a =>
  return Flow.grid (<- tally (<- degreePairs a 1 2 3 4) (a.truth 5))⟩,
 ⟨"attribute_mixing_dict", "G attribute nodes? normalized=False", fun a =>
  return Flow.grid (<- tally (<- attributePairs a) (a.truth 3))⟩,
 ⟨"mixing_dict", "xy normalized=False", fun a =>
  return Flow.grid (<- tally (<- (<- a.items 0).mapM (·.two)) (a.truth 1))⟩]

end Mixing

end DexLens.Network
