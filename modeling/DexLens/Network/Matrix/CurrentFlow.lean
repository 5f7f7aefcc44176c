import DexLens.Network.Matrix.Layout

/-! # Electrical current in graphs

Potentials come from the inverse of the Laplacian matrix without its first row and column.
-/

namespace DexLens.Network.CurrentFlow

open Float List

variable (a : Args) (r : List Float)

inductive Solver where
 | full
 | factors
 | gradient

def Solver.parse (v : Value) : Res Solver := do
 match <- v.key with
 | .text "full" => return full
 | .text "lu" => return factors
 | .text "cg" => return gradient
 | _ => .error .noKey

def Solver.failure : Solver -> Fault
 | full => .singular
 | _ => .degenerate

/-- A graph in which current flows, with its nodes numbered such that neighbours are close. -/
structure Circuit where
 graph : Graph
 order : Vals
 /-- The inverse of the Laplacian matrix without the first row and column, which are zero. -/
 inverse : Grid
 width : Nat

namespace Circuit

variable (c : Circuit)

def size : Nat := c.order.length

def node (i : Nat) : Value := c.order.getD i .null

def number (n : Value) : Nat :=
 if let .int i := n then i.toNat else 0

def listed : List Nat := c.graph.verts.map number

def spread : Nat :=
 let places := (r.zipIdx.filter (·.1 != 0)).map (·.2)
 if let i :: _ := places then places.getLastD i - i + 1 else 0

def build (g : Graph) (weight : Value) (solver : Res Solver) : Res Circuit := do
 let order := (<- g.narrowOrders .null).reverse
 let h <- g.relabelled fun n => .ok (order.idxOf n)
 let n := order.length
 let solver <- solver
 let m := Matrix.laplacian (<- Matrix.entries h ⟨(range n).map .nat⟩ weight (some .double)).grid
 let inner := Grid.build (n - 1) (n - 1) fun i j => m.get (i + 1) (j + 1)
 let inv <- opt solver.failure inner.inverse?
 let inverse := .build n n fun i j => if i = 0 || j = 0 then 0 else inv.get (i - 1) (j - 1)
 return { graph := h, order, inverse, width := (m.rows.map spread).foldl max 0 }

def edgeRows (weight : Value) : Res (List (Nat × Nat × List Float)) := do
 let w := c.width
 let n := c.size
 let (_, out) <- c.graph.edges.foldlM (fun acc e => do
  let u := number e.src
  let v := number e.dst
  if w = 0 then .error .byZero
  let x <- (e.get weight (.float 1.0)).entry
  let kept := (range (v + 1 - u)).foldl (fun k t => k.setRow ((u + t) % w) (c.inverse.row (u + t))) acc.1
  let factors := ((replicate w (0 : Float)).set (u % w) x).set (v % w) (-x)
  let row := (range n).map fun j => Grid.dot factors (kept.column j)
  return (kept, acc.2 ++ [(u, v, row)])) (Grid.zero w n, [])
 return out

def ranks : Array Nat :=
 (Grid.ascending r).reverse.zipIdx.foldl (fun a (i, k) => a.setIfInBounds i k) (.replicate r.length 0)

def byNode (values : Array Float) : Value := .dict (c.listed.map fun i => (c.node i, values.getD i 0))

def byEdge (values : List (Nat × Nat × Float)) : Value :=
 .dict (Table.ofList (values.map fun (u, v, x) => (.tuple [c.node u, c.node v], x)))

end Circuit

def circuit (message : String) (i : Nat) : Work Circuit := do
 let g <- a.graph
 if g.directed then fail message
 if !(<- g.isConnected) then fail "Graph not connected."
 Circuit.build g (a i) (Solver.parse (a (i + 2)))

def nodeMessage : String := "('current_flow_betweenness_centrality() ', 'not defined for digraphs.')"
def edgeMessage : String := "('edge_current_flow_betweenness_centrality ', 'not defined for digraphs.')"

def divisor (n : Nat) (normalized : Bool) : Float := if normalized then (ofNat n - 1.0) * (ofNat n - 2.0) else 2.0

def gather (xs : Array Float) (i : Nat) (x : Float) : Array Float := xs.modify i (· + x)

def betweenness : Work Value := do
 discard (Precision.parse (a 3))
 let c <- circuit a nodeMessage 2
 let n := c.size
 let size := ofNat n
 let rows <- c.edgeRows (a 2)
 let sums := rows.foldl (fun b (s, t, row) =>
  let pos := Circuit.ranks row
  row.zipIdx.foldl (fun b (x, i) =>
   let p := ofNat (pos.getD i 0)
   let k := ofNat i
   gather (gather b s ((k - p) * x)) t ((size - k - 1 - p) * x)) b) (Array.replicate n 0)
 let nb := divisor n (a.truth 1)
 if rows.isEmpty && nb == 0 then throw .byZero
 let final := c.listed.zipIdx.foldl (fun b (v, i) => b.modify v fun x => (x - ofNat i) * 2.0 / nb) sums
 return c.byNode final

def edgeSums (rows : List (Nat × Nat × List Float)) (nb : Float) (value : List Float -> Float) : List (Nat × Nat × Float) :=
 rows.foldl (fun out (u, v, row) =>
  let x := value row
  if out.any fun e => e.1 = u && e.2.1 = v then
   out.map fun e => if e.1 = u && e.2.1 = v then (u, v, (e.2.2 + x) / nb) else e
  else out ++ [(u, v, x / nb)]) []

def edgeBetweenness : Work Value := do
 discard (Precision.parse (a 3))
 let c <- circuit a edgeMessage 2
 let size := ofNat c.size
 return c.byEdge (edgeSums (<- c.edgeRows (a 2)) (divisor c.size (a.truth 1)) fun row =>
  let pos := Circuit.ranks row
  row.zipIdx.foldl (fun s (x, i) =>
   let p := ofNat (pos.getD i 0) + 1
   let k := ofNat i
   s + (k + 1 - p) * x + (size - k - p) * x) 0)

def chosen (i : Nat) (order : Vals) : Work (List Nat) := do
 (<- a.items i).mapM fun v => do opt .noKey (order.findIdx? (· == (<- v.key)))

def differences (srcs dsts : List Nat) (row : List Float) : Float :=
 let r := row.toArray
 srcs.foldl (fun s i => dsts.foldl (fun s j => s + 0.5 * (r.getD i 0 - r.getD j 0).abs) s) 0

def ends (order : Vals) (isAsked : Bool) : Work (List Nat × List Nat) := do
 if !isAsked then return ([], [])
 let srcs <- chosen a 1 order
 return (srcs, <- if srcs.isEmpty then pure [] else chosen a 2 order)

def betweennessSubset : Work Value := do
 let c <- circuit a nodeMessage 4
 let n := c.size
 let rows <- c.edgeRows (a 4)
 let (srcs, dsts) <- ends a c.order (!rows.isEmpty)
 let sums := rows.foldl (fun b (s, t, row) =>
  let x := differences srcs dsts row
  gather (gather b s x) t x) (.replicate n 0)
 let nb := divisor n (a.truth 3)
 if rows.isEmpty && nb == 0 then throw .byZero
 if n = 2 then throw .byZero
 return c.byNode (sums.map (· / nb + 1.0 / (2 - ofNat n)))

def edgeBetweennessSubset : Work Value := do
 let c <- circuit a edgeMessage 4
 let rows <- c.edgeRows (a 4)
 let (srcs, dsts) <- ends a c.order !rows.isEmpty
 return c.byEdge (edgeSums rows (divisor c.size (a.truth 3)) (differences srcs dsts))

def approximate : Work Value := do
 discard (Precision.parse (a 3))
 let c <- circuit a nodeMessage 2
 let n := c.size
 let nb := divisor n true
 let star := (<- Num.div (.int (n * (n - 1 : Int))) nb).toFloat
 let ratio := (<- Num.div star (<- a.num 5)).toFloat
 let k := (ratio ^ 2.0 * (ofNat n).log).ceil
 let count := (truncate? k).getD 0
 let most <- a.num 6
 if most.lt count then
  fail (s!"('Number random pairs k>kmax ({count}>" ++ (Value.int ((truncate? most.toFloat).getD 0)).shown
   ++ ") ', 'Increase kmax or epsilon')")
 let share := star / (2 * ofInt count)
 let weightOf u v : Res Float := do
  if c.graph.multi then return 1.0
  return <- ((c.graph.data (.nat u) (.nat v)).getD (a 2) (.float 1.0)).entry
 let sums <- (range count.toNat).foldlM (fun b _ => do
  let pair <- draw (.sample (range n) 2)
  let (s, t) := (pair.getD 0 0, pair.getD 1 0)
  let p := ((range n).map fun i => c.inverse.get i s - c.inverse.get i t).toArray
  c.listed.foldlM (fun b v => do
   if v = s || v = t then return b
   (c.graph.nbrs v).foldlM (fun b m => do
    let u := Circuit.number m
    return gather b v ((<- weightOf v u) * (p.getD v 0 - p.getD u 0).abs * share)) b) b) (.replicate n 0)
 let factor := if a.truth 1 then 1.0 else nb / 2.0
 return c.byNode (sums.map (· * factor))

def closeness : Work Value := do
 discard (Precision.parse (a 2))
 let c <- circuit a "current_flow_closeness_centrality() not defined for digraphs." 1
 let sums := c.listed.foldl (fun b v =>
  let col := (c.inverse.row v).toArray
  c.listed.foldl (fun b w =>
   gather (gather b v (col.getD v 0 - 2 * col.getD w 0)) w (col.getD v 0)) b) (.replicate c.size 0)
 return c.byNode (sums.map (1.0 / ·))

def solving (first solver : String) : String := s!"{first} weight= dtype=float solver={solver}"

def cmds : List Cmd :=
 let whole := solving "G normalized=True" "full"
 let subset := solving "G sources targets normalized=True" "lu"
 [⟨"current_flow_betweenness_centrality", whole, betweenness⟩,
 ⟨"edge_current_flow_betweenness_centrality", whole, edgeBetweenness⟩,
 ⟨"approximate_current_flow_betweenness_centrality", whole ++ " epsilon=0.5 kmax=10000", approximate⟩,
 ⟨"current_flow_betweenness_centrality_subset", subset, betweennessSubset⟩,
 ⟨"edge_current_flow_betweenness_centrality_subset", subset, edgeBetweennessSubset⟩,
 ⟨"current_flow_closeness_centrality", solving "G" "lu", closeness⟩,
 ⟨"information_centrality", solving "G" "lu", closeness⟩]

end DexLens.Network.CurrentFlow
