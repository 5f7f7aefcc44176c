import DexLens.Network.Mixing

/-! # Random sequences, and random changes that keep degrees -/

namespace DexLens.Network

open Float Graph Num Work

abbrev Reshape := ExceptT Fault (StateM (Graph × Nat))

namespace Reshape

def graph : Reshape Graph := return (<- get).1

def draw {α : Type} (d : Draw α) : Reshape α := do
 let (g, s) <- get
 let (r, s) := d.run.run s
 set (g, s)
 r

def change (f : Graph -> Graph) : Reshape Unit := do
 let (g, s) <- get
 if g.frozen then throw Method.frozenFault
 set (f g, s)

end Reshape

namespace Sequence

def cumulative (xs : List Num) : Res (List Float) := do
 let total := float (sum xs).toFloat
 let (out, _) <- xs.foldlM (fun acc x => do
  let y := acc.2 + (<- x.div total).toFloat
  return (acc.1 ++ [y], y)) ([0.0], 0.0)
 return out

def position (cdf : List Float) (x : Float) : Int := .ofNat (bisect cdf.length 0 cdf.length) - 1
where
 bisect : Nat -> Nat -> Nat -> Nat
  | 0, lo, _ => lo
  | fuel + 1, lo, hi =>
   if lo < hi then
    let mid := (lo + hi) / 2
    if cdf.getD mid 0 < x then bisect fuel (mid + 1) hi else bisect fuel lo mid
   else lo

def discrete (n : Nat) (cdf : List Float) : Draw (List Int) := (List.range n).mapM fun _ => return position cdf (<- random)

def pick {α : Type} (xs : List α) (i : Int) : Res α :=
 let j := if i < 0 then i + xs.length else i
 if j < 0 then .error .beyond else opt .beyond xs[j.toNat]?

def place {α : Type} (xs : List α) (i : Int) (x : α) : Res (List α) := do
 discard (pick xs i)
 return xs.set (if i < 0 then i + xs.length else i).toNat x

def pareto (n : Nat) (exponent : Float) : Draw Vals := (List.range n).mapM fun _ => return <- .pareto exponent

def uniform (n : Int) : Draw Vals := (List.range n.toNat).mapM fun _ => return <- .uniform 0 (ofInt n)

def zipf (alpha xmin : Num) : Draw Int := do
 if xmin.lt 1 then throw .badVal
 if alpha.le 1 then throw .badVal
 let a1 := alpha.toFloat - 1.0
 let b := pow 2.0 a1
 for _ in [0:100000] do
  let u := 1.0 - (<- random)
  let v <- random
  let x := (truncate? (xmin.toFloat * pow u (-(1.0 / a1)))).getD 0
  if x = 0 then throw .byZero
  let fx := ofInt x
  let t := pow (1.0 + 1.0 / fx) a1
  if v * fx * (t - 1.0) / (b - 1.0) ≤ t / b then return x
 throw .broken

def weighted (t : Table Num) : Draw Value := do
 let start := float (<- random) * sum t.values
 let (found, _) := t.foldl (fun acc (k, w) =>
  if let some _ := acc.1 then acc
  else
   let left := acc.2 - w
   (if left.lt 0 then k else none, left)) (none, start)
 return found.getD .null

end Sequence

namespace Graph

def trySwap (keys : Vals) (cdf : List Float) (swap : Value -> Value -> Value -> Value -> Graph -> Graph) :
 Reshape (Option (Option (Value × Value × Value × Value))) := do
 let [ui, xi] <- .draw (Sequence.discrete 2 cdf) | throw .badVal
 if ui == xi then return none
 let u <- Sequence.pick keys ui
 let x <- Sequence.pick keys xi
 let g <- .graph
 let v <- .draw (choice (g.nbrs u))
 let y <- .draw (choice (g.nbrs x))
 if v == y then return none
 if !g.hasEdge u x && !g.hasEdge v y then
  .change (swap u v x y)
  return some (some (u, v, x, y))
 return some none

def doubleSwap (swaps tries : Num) : Reshape Unit := do
 let g <- .graph
 let invalidly {α : Type} s : Reshape α := fail s
 if g.directed then invalidly "double_edge_swap() not defined for directed graphs."
 if tries.lt swaps then invalidly "Number of swaps > number of tries allowed."
 if g.order < 4 then invalidly "Graph has less than four nodes."
 let keys := g.succ.keys
 let cdf <- Sequence.cumulative (keys.map fun n => .int (g.degree n))
 let mut n : Nat := 0
 let mut made : Nat := 0
 for _ in [0:3000000] do
  if !(lt (.int made) swaps) then return
  if let some swapped <- trySwap keys cdf fun u v x y g =>
   (((g.addEdge u x).addEdge v y).removeEdge u v).removeEdge x y then
   if swapped.isSome then made := made + 1
   if tries.le (.int n) then
    throw (.graph .algorithm (s!"Maximum number of swap attempts ({n}" ++
     s!") exceeded before desired swaps achieved ({swaps.value.shown})."))
   n := n + 1

def connectedSwap (swaps : Num) : Reshape Int := do
 let g <- .graph
 if g.directed then throw (.graph .unsupported "not implemented for directed type")
 if !(<- g.isConnected) then fail "Graph not connected"
 if g.order < 4 then fail "Graph has less than four nodes."
 let keys := g.succ.keys
 let cdf <- Sequence.cumulative (keys.map fun n => .int (g.degree n))
 let mut n : Nat := 0
 let mut made := 0
 let mut window := 1
 for _ in [0:100000] do
  if !(lt (.int n) swaps) then break
  let mut count := 0
  let mut swapped := []
  for _ in [0:100000] do
   if !(count < window && lt (.int n) swaps) then break
   let some r <- trySwap keys cdf fun u v x y g => (((g.removeEdge u v).removeEdge x y).addEdge u x).addEdge v y | pure ()
   if let some s := r then
    swapped := s :: swapped
    made := made + 1
   n := n + 1
   count := count + 1
  if <- (<- .graph).isConnected then window := window + 1
  else
   for (u, v, x, y) in swapped do
    .change fun g => (((g.addEdge u v).addEdge x y).removeEdge u x).removeEdge v y
    made := made - 1
   window := (window + 1) / 2
 return made

def richClub (g : Graph) : Res (Table Float) := do
 let hist <- g.degreeHistogram
 let total := Total.ofNats hist
 let sums := hist.foldl (fun (acc : List Nat) x => acc ++ [acc.getLastD 0 + x]) []
 let sizes := (sums.filter (total > · + 1)).map (total - ·)
 let pairs := g.edges.map fun e =>
  let (a, b) := (g.degree e.src, g.degree e.dst)
  .tuple (if b < a then [.nat b, .nat a] else [.nat a, .nat b])
 let first :: rest <- Value.sorted pairs | .error .beyond
 let low (p : Value) : Int :=
  if let .tuple (.int k :: _) := p then k else 0
 let (out, _) := sizes.zipIdx.foldl (fun (acc : Table Float × Int × Vals × Int) (nk, d) =>
  let (t, k1, left, ek) := acc
  -- Edges drop out as long as the lesser degree of the last one taken is not above `d`.
  let gone := if k1 ≤ d then
   let skipped := (left.takeWhile (low · ≤ d)).length
   min (skipped + 1) left.length
   else 0
  let k1 := if gone = 0 then k1 else (left[gone - 1]?.map low).getD k1
  let ek := ek - gone
  (t ++ [(.nat d, 2.0 * ofInt ek / ofInt (nk * (nk - 1) : Nat))], k1, left.drop gone, ek))
  ([], low first, rest, (g.size : Int))
 return out

end Graph

namespace Swap

def richClub (a : Args) : Work Value := do
 let g <- a.graph
 if g.multi || g.directed then throw .unspecified
 if !g.loops.isEmpty then throw .unspecified
 let rc <- g.richClub
 if !a.truth 1 then return .ofTable .float rc
 let q <- a.num 2
 let n := q * .int g.size
 let copy <- keep g.copy
 reshape copy (doubleSwap n (n * 10))
 let ran <- (<- graph copy).richClub
 let t <- rc.mapM fun (d, x) => return (d, <- (float x).div (<- Table.get ran d))
 return .dict t

def inOrder (ns : Vals) : Vals :=
 if ns.all fun n => match n with | .int _ => true | _ => false then (Value.sorted ns).toOption.getD ns else ns

def independentSet (a : Args) : Work Value := do
 let g <- a.graph
 let start <- if a.truth 1 then pure (inOrder (uniq (<- (<- a.items 1).mapM (·.key))))
  else do pure [<- draw (choice g.verts)]
 let text := (Value.set start).shown
 if !(start.all g.hasNode) then throw (.graph .unfeasible (text ++ " is not a subset of the nodes of G"))
 let near := uniq (start.flatMap g.nbrs)
 if near.any start.contains then throw (.graph .unfeasible (text ++ " is not an independent set of G"))
 let (chosen, _) <- (List.range g.order).foldlM (fun acc _ => do
  if acc.2.isEmpty then return acc
  let n <- draw (choice acc.2)
  return (acc.1 ++ [n], acc.2.filter fun m => !(m == n) && !g.hasEdge n m))
  (start, inOrder (without (without g.verts near) start))
 return chosen

def sequenceCommands : List Cmd := [
 ⟨"utils.pareto_sequence", "n exponent=1.0", fun a =>
  return <- draw (Sequence.pareto (<- a.int 0).toNat (<- a.num 1).toFloat)⟩,
 ⟨"utils.powerlaw_sequence", "n exponent=2.0", fun a =>
  return <- draw (Sequence.pareto (<- a.int 0).toNat ((<- a.num 1) - 1).toFloat)⟩,
 ⟨"utils.uniform_sequence", "n", fun a => return <- draw (Sequence.uniform (<- a.int 0))⟩,
 ⟨"utils.zipf_rv", "alpha xmin=1 seed?", fun a => do
  sow (a 2)
  return <- draw (Sequence.zipf (<- a.num 0) (<- a.num 1))⟩,
 ⟨"utils.zipf_sequence", "n alpha=2.0 xmin=1", fun a => do
  let alpha <- a.num 1
  let xmin <- a.num 2
  let xs <- draw ((List.range (<- a.int 0).toNat).mapM fun _ => Sequence.zipf alpha xmin)
  return .list (xs.map .int)⟩,
 ⟨"utils.cumulative_distribution", "distribution", fun a =>
  return .list ((<- Sequence.cumulative (<- (<- a.items 0).mapM (·.num))).map .float)⟩,
 ⟨"utils.discrete_sequence", "n distribution? cdistribution?", fun a => do
  let n := (<- a.int 0).toNat
  let cdf <- if !a.isNull 2 then (<- a.items 2).mapM fun v => return (<- v.num).toFloat
   else if !a.isNull 1 then Sequence.cumulative (<- (<- a.items 1).mapM (·.num))
   else fail "discrete_sequence: distribution or cdistribution missing"
  return .list ((<- draw (Sequence.discrete n cdf)).map .int)⟩,
 ⟨"utils.weighted_choice", "mapping", fun a => do draw (Sequence.weighted (<- numbers (<- a.dict 0)))⟩,
 ⟨"utils.random_weighted_sample", "mapping k", fun a => do
  let t <- numbers (<- a.dict 0)
  let k <- a.int 1
  if k > t.length then throw .badVal
  let mut out := []
  for _ in [0:100000] do if out.length < k.toNat then out := including out (<- draw (Sequence.weighted t)) else break
  return gathered out⟩]

def cmds : List Cmd := sequenceCommands ++ [
 ⟨"double_edge_swap", "G nswap=1 max_tries=100", fun a => do
  discard (a.graph)
  reshape (a 0) (doubleSwap (<- a.num 1) (<- a.num 2))
  return a 0⟩,
 ⟨"connected_double_edge_swap", "G nswap=1", fun a => return <- reshape (a 0) (connectedSwap (<- a.num 1))⟩,
 ⟨"rich_club_coefficient", "G normalized=True Q=100", richClub⟩,
 ⟨"maximal_independent_set", "G nodes?", independentSet⟩]

end Swap

end DexLens.Network
