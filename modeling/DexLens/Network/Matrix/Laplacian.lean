import DexLens.Network.Matrix.Store

/-! # Incidence, Laplacian and attribute matrices -/

namespace DexLens.Network.Matrix

open Grid List Mixing Precision Table Value

variable (m : Grid) (a : Args) (lab : Lab) (g : Graph)

/-! ## Incidence -/

def incidenceWeight (e u v weight : Value) : Res Float := do
 if weight.isNull then return 1
 let row <- opt .noKey ((<- g.row u).get? v)
 let items <- if g.multi then (<- get row.items (<- (<- e.nth 2).key)).asDict
  else pure row.items
 (items.getD weight 1).entry

def lastPlace? (xs : Vals) (n : Value) : Option Nat := (xs.zipIdx.filter (·.1 == n)).getLast?.map (·.2)

def sparseValue (p : Precision) (format : String) (m : Grid) : Value :=
 .sparse format [] (m.rows.map fun r => .array (r.map p.value))

def place (n : Nat) : Value -> Res Nat
 | .int i =>
  let j := if i < 0 then i + n else i
  if j < 0 || n ≤ j then .error .beyond else .ok j.toNat
 | _ => .error .beyond

def incidence : Work Value := do
 let g <- a.graph
 let nodes <- if a.isNull 1 then pure g.verts else counted (a 1)
 let nodes <- nodes.mapM (·.key)
 let edges <- if a.isNull 2 then pure (g.edges.map (·.value g.multi false)) else counted (a 2)
 let m <- edges.zipIdx.foldlM (fun m (e, k) => do
  let (u, v) <- (tuple (<- front 2 e)).two
  if u == v then return m
  let (some i, some j) := (lastPlace? nodes (<- u.key), lastPlace? nodes (<- v.key)) | throw .unknownName
  let w <- incidenceWeight g e u v (a 4)
  return (m.set i k (if a.truth 3 then -w else w)).set j k w) (zero nodes.length edges.length)
 return sparseValue .double "csc" m

/-! ## Laplacian matrices -/

def laplacian : Grid := diagonal m.rowSums - m

def withoutLoops (loops : Vals) : Res Grid :=
 loops.foldlM (fun m n => do
  let k <- place m.height n
  return m.set k k (m.get k k - 1)) m

def normalizedLaplacian : Grid :=
 let roots := m.rowSums.map fun d =>
  let x := 1.0 / d.sqrt
  if x.isInf then 0 else x
 let scaled := roots.toArray
 let l := laplacian m
 build m.height m.width fun i j =>
  let x := l.get i j
  if x == 0 then 0 else scaled.getD i 0 * (x * scaled.getD j 0)

inductive Walk where
 | random
 | lazy
 | jumping

def Walk.steps (w : Walk) (m : Grid) (alpha : Float) : Grid :=
 let n := m.height
 let size := ofInt n
 let step i j :=
  let x := m.get i j
  if x == 0 then 0 else 1.0 / total (m.row i) * x
 match w with
 | .random => build n n step
 | .lazy => build n n fun i j => ((if i = j then 1 else 0) + step i j) / 2.0
 | .jumping => ofRows n (m.rows.map fun r =>
  let r := if total r == 0 then r.map fun _ => 1.0 / size else r
  let s := total r
  r.map fun x => alpha * (x / s) + (1 - alpha) / size)

def pairVectors : List Float :=
 let (a, b, c, d) := (m.get 0 0, m.get 0 1, m.get 1 0, m.get 1 1)
 let p := 0.5 * (a - d)
 let z := p + withSign (p * p + b * c).sqrt p
 let first := d + z
 let second := d - b * c / z
 let tau := (c * c + z * z).sqrt
 let cs := z / tau
 let sn := c / tau
 let x := -(b - c) / (first - second)
 let v := (cs * x - sn, sn * x + cs)
 let s := (v.1 * v.1 + v.2 * v.2).sqrt
 [cs, v.1 / s, sn, v.2 / s]

def leading (roots : List Root) (measure : Root -> Float) : Float :=
 let best := roots.foldl (fun b r => do
  let some q := b | r
  if measure q < measure r then r else b) none
 (best.getD ⟨0, 0⟩).re

def leadingVector (t : Grid) (measure : Root -> Float) : Res (List Float) :=
 return t.eigenvector (leading (<- opt .singular t.eigenvalues?) measure)

def longRun (p : Grid) (isStored : Bool) : Res (List Float) := do
 let t := p.transpose
 let n := p.height
 if n ≤ 2 then
  if isStored then .error .badKind
  if !p.isFinite then .error .badVal
  if n = 1 then return [1]
  return pairVectors t
 else leadingVector t fun r => (r.re * r.re + r.im * r.im).sqrt + if r.re > 0 then 1.0e-9 else 0

def directedLaplacian : Work Value := do
 let g <- a.graphNot "undirected"
 let g <- if g.multi then a.graphNot "multigraph" else pure g
 let kind <- match a 3 with
  | .null => do
   let c :: _ := g.strongParts | throw (.graph .pointless "Connectivity is undefined for the null graph.")
   if c.length != g.order then pure (text "pagerank")
   else if <- Graph.isAperiodic (g.order + 1) g then pure (text "random")
   else pure "lazy"
  | v => pure v
 let m := (<- storedEntries a 1 2 (some .double)).grid
 let n := m.height
 let walk <- match kind with
  | .text "random" => pure Walk.random
  | .text "lazy" => pure .lazy
  | .text "pagerank" =>
   let alpha <- a.num 4
   if !(Num.lt 0 alpha && alpha.lt 1) then fail "alpha must be between 0 and 1"
   pure .jumping
  | _ => fail "walk_type must be random, lazy, or pagerank"
 let isStored := match walk with | .jumping => false | _ => true
 let p := walk.steps m (match a 4 with | .float x => x | .int i => ofInt i | _ => 0)
 let v <- longRun p isStored
 let roots := ((ofSumOne v).map (·.sqrt)).toArray
 let q := build n n fun i j =>
  let x := p.get i j
  if isStored && x == 0 then 0 else roots.getD i 0 * x * (1.0 / roots.getD j 0)
 if n != g.order then throw .badVal
 let l := build n n fun i j => (if i = j then 1 else 0) - (q.get i j + q.get j i) / 2.0
 return l.value .double

def spectrum : Res Value := do
 if !m.isFinite then .error .badVal
 return .array ((<- opt .singular m.eigenvalues?).map fun r => .complex r.re r.im)

/-! ## Attributes -/

def edgeValue (attr u v : Value) : Res Num := do
 let b <- opt .noKey (g.bundle? u v)
 if attr.isNull then return .int (if g.multi then b.size else 1)
 if Lab.isCallable attr then (<- lab.apply attr [u, v]).num
 else
  let one r := do if attr == "weight" then (r.getD attr 1).num else (<- get r (<- attr.key)).num
  if g.multi then return .sum (<- b.records.mapM (one ·.items)) else one b.items

def nodeValue (attr n : Value) : Res Value := do
 if attr.isNull then return n
 if Lab.isCallable attr then lab.apply attr [n]
 else get (g.nodeItems n) (<- attr.key)

def attributes (edge node : Value) (order : Vals) (p : Precision) : Res Grid := do
 let n := order.length
 let find u : Res Nat := do opt .noKey (lastPlace? order (<- (<- nodeValue lab g node u).key))
 let (m, _) <- g.succ.foldlM (fun acc (u, row) => do
  let m <- (keys row).foldlM (fun m v => do
   let i <- find u
   let j <- find v
   if acc.2.contains v then return m
   let x := p.fit (m.get i j + (<- edgeValue lab g edge u v).toFloat)
   let m := m.set i j x
   return if g.directed then m else m.set j i x) acc.1
  return (m, if g.directed then acc.2 else u :: acc.2)) (zero n n, [])
 return m

def attributeMatrix (normal : Float -> Float -> Float) (form : Precision -> Grid -> Value) : Work Value := do
 let g <- a.graph
 let lab <- get
 let order <- if a.isNull 4 then
  pure (gathered (<- g.verts.mapM fun n => do (<- nodeValue lab g (a 2) n).key))
  else (<- counted (a 4)).mapM (·.key)
 let p := (<- parse (a 5)).getD .double
 let m <- attributes lab g (a 1) (a 2) order p
 let m := if a.truth 3 then
  ofRows m.width (m.rows.map fun r => r.map (normal · (total r)))
  else m
 return if a.isNull 4 then .tuple [form p m, order] else form p m

def laplacianCommands : List Cmd := [
 ⟨"incidence_matrix", "G nodelist? edgelist? oriented=False weight?", incidence⟩,
 ⟨"adjacency_matrix", "G nodelist? weight=", fun a => do (<- storedEntries a 1 2 none).value "csr"⟩,
 ⟨"adj_matrix", "G nodelist? weight=", fun a => do (<- storedEntries a 1 2 none).value "csr"⟩,
 ⟨"laplacian_matrix", "G nodelist? weight=", fun a => do
  discard (a.graphNot "directed")
  let m <- storedEntries a 1 2 none
  return sparseValue m.precision "csr" (laplacian m.grid)⟩,
 ⟨"normalized_laplacian_matrix", "G nodelist? weight=", fun a => do
  let g <- a.graphNot "directed"
  let m <- storedEntries a 1 2 none
  return sparseValue .double "csr" (normalizedLaplacian (<- withoutLoops m.grid (g.loops.map (·.src))))⟩,
 ⟨"directed_laplacian_matrix", "G nodelist? weight= walk_type? alpha=0.95", directedLaplacian⟩,
 ⟨"laplacian_spectrum", "G weight=", fun a => do
  spectrum (laplacian (<- stored (<- a.graphNot "directed") (a 1) none))⟩,
 .of "adjacency_spectrum" "G weight=" fun g a => do spectrum (<- stored g (a 1) none),
 ⟨"attr_matrix", "G edge_attr? node_attr? normalized=False rc_order? dtype? order?",
  fun a => do
   checkLayout (a 6)
   let isInexact := a.truth 3 && (<- parse (a 5)) == some .whole
   let m <- attributeMatrix a (· / ·) fun p m => m.value p
   if isInexact then throw .inexact
   return m⟩,
 ⟨"attr_sparse_matrix", "G edge_attr? node_attr? normalized=False rc_order? dtype?",
  fun a => attributeMatrix a (fun x s => if x == 0 then 0 else x / s) fun p m => sparseValue p "lil" (m.map p.fit)⟩]

/-! # Matrices of what is joined to what -/

variable (m : Grid) (t : Items) (ps places : Pairs)

def ofTables : Res Grid := do
 let n := places.length
 places.foldlM (fun m (a, i) =>
  places.foldlM (fun m (b, j) => do
   let some row := t.get? a | return m
   let .dict row := row | .error .badKind
   let some x := get? row b | return m
   return m.set (<- place n i) (<- place n j) (<- x.entry)) m) (zero n n)

def ofTable : Res (List Float) := do
 let blank := replicate places.length 0
 places.foldlM (fun xs (a, i) => do
  let x <- (<- t.get a).entry
  let .int i := i | .error .beyond
  if i < 0 || xs.length ≤ i then .error .beyond else return xs.set i.toNat x) blank

def numbered (xs : Vals) : Pairs := xs.zipIdx.map fun (x, i) => (x, i)

def allKeys : Res Vals := return t.keys ++ (<- t.mapM fun (_, row) => return keys (<- row.asDict)).flatten

def tableArray (v mapping : Value) : Res Value := do
 let t <- v.asDict
 let places <- if mapping.isNull then pure none else do pure (some (<- mapping.asDict))
 if t.any (fun p => match p.2 with | .dict _ => false | _ => true) && places.isNone then
  return .array ((<- ofTable t (numbered (gathered t.keys))).map .float)
 let some places := places | return (<- ofTables t (numbered (gathered (<- allKeys t)))).value .double
 return (<- ofTables t places).value .double

def tables (t : Table (Table Num)) : Items := t.map fun (k, row) => (k, .dict (row.map fun (k, x) => (k, x)))

def mixing : Res Grid := do
 let t <- Graph.tally ps false
 let keys := t.keys
 let top <- greatest keys
 let n <- match top with
  | .int i => pure (i + 1)
  | .bool b => pure (if b then 2 else 1)
  | _ => .error .badKind
 let places := (Generate.range 0 n).map fun i => (int i, int i)
 ofTables (tables t) places

def shares : Grid :=
 let s := m.sum
 m.map (· / s)

def shared (normalized : Bool) : Value := (if normalized then shares m else m).value .double

def balanced : Grid := if m.sum == 1 then m else shares m

def likeness : Res Float := do
 if m.height != m.width then .error .badVal
 let m := balanced m
 let s := (m * m).sum
 return (m.trace - s) / (1 - s)

def correlation : Res Float := do
 let m := balanced m
 if m.height != m.width then .error .badVal
 let n := m.height
 let x := (range n).map Float.ofNat
 let a := (range n).map fun j => total (m.column j)
 let b := m.rowSums
 let squares := x.map fun y => y * y
 let weighted (w ys : List Float) := Grid.sumOf ((w.zip ys).map fun (u, y) => u * y)
 let variance (w : List Float) :=
  let mean := weighted w x
  weighted w squares - mean * mean
 let (xs, us, vs) := (x.toArray, a.toArray, b.toArray)
 let together := build n n fun i j => xs.getD i 0 * xs.getD j 0 * (m.get i j - us.getD i 0 * vs.getD j 0)
 return together.sum / (variance a * variance b).sqrt

def pairCorrelation : Res Float := do
 if ps.length < 2 then .error .badVal
 let xs <- ps.mapM fun p => return (<- p.1.num).toFloat
 let ys <- ps.mapM fun p => return (<- p.2.num).toFloat
 let isConstant zs := zs.all (· == zs.headD 0)
 if isConstant xs || isConstant ys then return nan
 let sign zs := if zs.getD 0 0 < zs.getD 1 0 then 1 else -1
 if ps.length = 2 then return sign xs * sign ys
 let n := ofInt ps.length
 let centred (zs : List Float) :=
  let mean := Grid.sumOf zs / n
  let ds := zs.map (· - mean)
  let l := (dot ds ds).sqrt
  ds.map (· / l)
 return max (-1) (min 1 (dot (centred xs) (centred ys)))

def given : Work Grid := do
 let .array _ := a 0 | throw .noPart
 return (<- (a 0).grid).1

def biadjacency (a : Args) : Work Value := do
 let g <- a.graph
 let rows <- (<- a.items 1).mapM (·.key)
 let columns <- if a.isNull 2 then pure (gathered (g.verts.filter (!rows.contains ·)))
  else (<- a.items 2).mapM (·.key)
 let p := (<- parse (a 4)).getD .double
 let m <- rows.foldlM (fun m u => do
  (<- g.row u).foldlM (fun m (v, b) => do
   let x <- (b.items.getD (a 3) 1).entry
   return m.set ((lastPlace? rows u).getD 0) (<- opt .noKey (lastPlace? columns v)) (p.fit x)) m)
  (zero (uniq rows).length (uniq columns).length)
 return m.value p

def allDistances : Grid :=
 let n := m.height
 let begun := build n n fun i j => if i = j then 0 else m.get i j
 (range n).foldl (fun d k =>
  build n n fun i j =>
   let x := d.get i j
   let y := d.get k j + d.get i k
   if x.isNaN || y.isNaN then nan else if y < x then y else x) begun

def mixingCommands : List Cmd := [
 ⟨"attribute_mixing_matrix", "G attribute nodes? mapping? normalized=True", fun a => do
  let t <- Graph.tally (<- attributePairs a) false
  return shared (<- (<- tableArray (tables t) (a 3)).grid).1 (a.truth 4)⟩,
 ⟨"degree_mixing_matrix", "G x=out y=in weight? nodes? normalized=True", fun a =>
  return shared (<- mixing (<- degreePairs a 1 2 3 4)) (a.truth 5)⟩,
 ⟨"numeric_mixing_matrix", "G attribute nodes? normalized=True", fun a =>
  return shared (<- mixing (<- attributePairs a)) (a.truth 3)⟩,
 ⟨"degree_assortativity_coefficient", "G x=out y=in weight? nodes?", fun a =>
  return <- correlation (shares (<- mixing (<- degreePairs a 1 2 3 4)))⟩,
 ⟨"degree_pearson_correlation_coefficient", "G x=out y=in weight? nodes?", fun a =>
  return <- pairCorrelation (<- degreePairs a 1 2 3 4)⟩,
 ⟨"attribute_assortativity_coefficient", "G attribute nodes?", fun a => do
  let t <- Graph.tally (<- attributePairs a) false
  return <- likeness (shares (<- ofTables (tables t) (numbered (gathered t.keys))))⟩,
 ⟨"numeric_assortativity_coefficient", "G attribute nodes?", fun a =>
  return <- correlation (shares (<- mixing (<- attributePairs a)))⟩,
 ⟨"attribute_ac", "M", fun a => return <- likeness (<- given a)⟩,
 ⟨"numeric_ac", "M", fun a => return <- correlation (<- given a)⟩,
 ⟨"dict_to_numpy_array", "d mapping?", tableArray⟩,
 ⟨"dict_to_numpy_array1", "d mapping?", fun a => do
  let t <- a.dict 0
  let places <- if a.isNull 1 then pure (numbered (gathered t.keys)) else a.dict 1
  return .array ((<- ofTable t places).map .float)⟩,
 ⟨"dict_to_numpy_array2", "d mapping?", fun a => do
  let t <- a.dict 0
  let places <- if a.isNull 1 then pure (numbered (gathered (<- allKeys t))) else a.dict 1
  return (<- ofTables t places).value .double⟩,
 ⟨"biadjacency_matrix", "G row_order column_order? weight= dtype?", biadjacency⟩,
 .of "floyd_warshall_numpy" "G nodelist? weight=" fun g a =>
  return (allDistances (<- dense g (<- frame a g 1) (.ok .least) (a 2) (1.0 / 0.0) .double)).value .double]

end DexLens.Network.Matrix
