import DexLens.Network.Approximate

/-! # Threshold graphs

Each new node is joined to all nodes before it (`d`) or to none (`i`). A graph is given by these signs, by pairs of
a node and its sign, or by the lengths of runs of equal signs, where the first run is one of `d`.
-/

namespace DexLens.Network.Threshold

open Generate List Num Sequence Total Value

variable (v : Value) (a : Args) (ms : List Bool)

inductive Form where
 | signs
 | labelled
 | runs

def form? : Res (Option Form) := do
 match <- v.nth 0 with
 | .text _ => return some .signs
 | .tuple _ => return some .labelled
 | .int _ | .bool _ => return some .runs
 | _ => return none

def form : Res Form := do opt .badKind (<- form? v)

def sequence : Value -> Res Vals
 | .list xs | .tuple xs => .ok xs
 | .text s => .ok (s.toList.map (.text ·.toString))
 | .dict _ | .int _ | .float _ | .null | .bool _ => .error .badKind
 | _ => .error .noPart

def marks : Res (List Bool) := do
 match v with
 | .list _ | .tuple _ | .text _ => return (<- sequence v).map (·.same "d")
 | _ => .error .noPart

def taking : Value -> Res Vals
 | .list xs => .ok xs
 | .tuple _ | .text _ => .error .noPart
 | _ => .error .badKind

def signsOf (xs : Vals) : Res Vals := xs.mapM (·.nth 1)

def expand (runs : Vals) : Res Vals := do
 let rows <- runs.zipIdx.mapM fun (k, i) => return replicate (<- k.asInt).toNat (text (if i % 2 = 0 then "d" else "i"))
 return rows.flatten

def runLengths (xs : Vals) : List Nat :=
 match xs with
 | [] => [1]
 | x :: rest =>
  let (done, _, last) := rest.foldl (fun acc y =>
   if y == acc.2.2 then (acc.1, acc.2.1 + 1, y) else (acc.1 ++ [acc.2.1], 1, y)) ([], 1, x)
  let count := (rest.reverse.takeWhile (· == last)).length
  done ++ [if count = rest.length && x == last then count + 1 else count]

def plain : Res Vals := do
 match <- form v with
 | .signs => sequence v
 | .labelled => signsOf (<- sequence v)
 | .runs => expand (<- taking v)

def numbered : Res Pairs := return (<- plain v).zipIdx.map fun (s, i) => (nat i, s)

def compact : Res Value := do
 let .runs <- form v | return .list ((runLengths (<- plain v)).map .nat)
 return v

def uncompact : Res Value := do
 let .runs <- form v | return v
 return <- plain v

def sortedPairs (ps : Pairs) : Res (List (Num × Value)) := do
 (<- sorted (ps.map fun (d, x) => .list [d, x])).mapM fun p => do
  let .list [d, x] := p | .error .badKind
  return (<- d.num, x)

def owned : Work Pairs := do
 match v with
 | .dict d => return d.map fun (k, x) => (x, k)
 | v => return (<- .items v).zipIdx.map fun (x, i) => (x, .nat i)

def creation : Nat -> List (Num × Value) -> Option (List (Value × String))
 | 0, _ => some []
 | n + 1, ds => do
  let ((d, v) :: rest, some (top, w)) := (ds, ds.getLast?) | some []
  if d.isZero then (creation n rest).map (· ++ [(v, if rest.isEmpty then "d" else "i")])
  else if top == .int (rest.length : Nat) then
   (creation n (ds.dropLast.map fun (d, x) => (d - 1, x))).map (· ++ [(w, "d")])
  else none

def shaped (cs : List (Value × String)) (labelled runs : Bool) : Res Value := do
 let pairs := list (cs.map fun (v, s) => .tuple [v, s])
 if labelled then return pairs
 if runs then compact pairs else return .list (cs.map fun (_, s) => s)

def fromDegrees : Work Value := do
 if a.truth 1 && a.truth 2 then throw .badVal
 let ds <- sortedPairs (<- owned (a 0))
 let some cs := creation ds.length ds | return .null
 return <- shaped cs (a.truth 1) (a.truth 2)

def isThreshold : Res Bool := do
 let ds <- sorted (<- taking v)
 return (ds.mapM num?).elim false fun ns => (creation ns.length (ns.map (·, .null))).isSome

def fromWeights : Work Value := do
 if a.truth 2 && a.truth 3 then throw .badVal
 let ws <- sortedPairs (<- owned (a 0))
 let limit <- a.num 1
 let cutoff (ws : List (Num × Value)) : Res Num := do
  let (w, _) <- opt .beyond ws.getLast?
  return limit - w
 let mut left := ws
 let mut low <- cutoff ws
 let mut out := []
 for _ in [0:ws.length] do
  let ((w, x) :: rest, some (_, y)) := (left, left.getLast?) | break
  if w.lt low then
   out := (x, "i") :: out
   left := rest
  else
   out := (y, "d") :: out
   left := left.dropLast
   low <- cutoff left
  if let [(_, z)] := left then
   out := (z, "d") :: out
   left := []
 shaped out (a.truth 2) (a.truth 3)

/-- Weights for the nodes of one sign, backwards: a greater one behind each run of the other sign. -/
def weigh (sign : Value) (acc : Vals × Nat × Value) (s : Value) : Vals × Nat × Value :=
 let (out, w, prev) := acc
 if s.same sign then (nat w :: out, w, s)
 else if prev.same sign then (s :: out, w + 1, s)
 else (s :: out, w, prev)

def weights : Res Vals := do
 let (low, w, prev) := (<- plain v).reverse.foldl (weigh "i") ([], 0, "i")
 let (all, w, prev) := low.foldl (weigh "d") ([], w, prev)
 let w := if prev.same "d" then w + 1 else w
 let scale <- div (.float 1.0) (ofInt w)
 all.reverse.mapM fun x => return ((<- x.num) * scale).value

def graph (cs base : Value) : Work Value := do
 let steps <- match <- form? cs with
  | none => return .null
  | some .labelled => (<- sequence cs).mapM (·.two)
  | some _ => numbered cs
 noArcs base
 let ref <- blank base
 if let .tuple (.tuple _ :: _) := cs then throw .noPart
 let g <- steps.foldlM (fun g (v, s) => do
  discard v.key
  let g := if s.same "d" then g.verts.foldl (·.addEdge v ·) g else g
  return g.ensure v) (<- .graph ref)
 update ref (g.setName "Threshold Graph")
 return ref

def alternatingCycle (g : Graph) : Option Vals :=
 g.edges.findSome? fun e =>
  (g.verts.filter fun w => !g.hasEdge e.src w && !e.src.same w).findSome? fun w =>
   ((g.nbrs w).find? fun x => !g.hasEdge e.dst x && !e.dst.same x).map fun x => [e.src, e.dst, w, x]

def peel : Nat -> Graph -> Res (List (Value × String))
 | 0, g => if g.order = 0 then .ok [] else .error .endless
 | n + 1, g => do
  let ns := g.succ.keys
  let ds <- sortedPairs (ns.map fun v => (.nat (g.degree v), v))
  let some (top, v) := ds.getLast? | return []
  if top.isZero then return ns.zip (replicate (ns.length - 1) "i" ++ ["d"])
  let isolated := ds.takeWhile (·.1.isZero)
  return isolated.map (·.2, "i") ++ [(v, "d")] ++ (<- peel n (g.subgraph (g.nbrs v)))

def creationOf (g : Graph) : Res Value := do shaped (<- peel (g.order + 1) g).reverse true false

/-! ## What a sequence tells about its graph -/

def countMarks : Int := (ms.filter id).length

def degrees : List Int :=
 (ms.zipIdx.foldl (fun acc (d, i) =>
  if d then (acc.1 ++ [acc.2 - 1 + i], acc.2 - 1) else (acc.1 ++ [acc.2], acc.2)) ([], countMarks ms)).1

def triangleCount : Float :=
 let d := countMarks ms
 (ms.foldl (fun acc m =>
  if m then (acc.1, acc.2 - 1) else (acc.1 + ofInt (acc.2 * (acc.2 - 1)) / 2.0, acc.2))
  (ofInt (d * (d - 1) * (d - 2)) / 6.0, d)).1

def triangles : Res (List Int) := do
 let mut d := countMarks ms
 let mut inner := Int.fdiv ((d - 1) * (d - 2)) 2
 let mut irun := 0
 let mut drun := 0
 let mut last := none
 let mut out := []
 for m in ms do
  if m then
   drun := drun + 1
   out := out ++ [inner + (d - 1) * irun]
  else
   match last with
   | none => .error .unbound
   | some true =>
    inner := inner + (d - 1) * irun
    irun := 0
    d := d - drun
    drun := 0
   | some false => pure ()
   irun := irun + 1
   out := out ++ [.fdiv (d * (d - 1)) 2]
  last := some m
 return out

def clustering : Res Vals := do
 let ts <- triangles ms
 return (ts.zip (degrees ms)).map fun (t, d) => if d ≤ 1 then 0 else ofInt t / ofInt (.fdiv (d * (d - 1)) 2)

def density : Res Num :=
 let n : Int := ms.length
 div (ofInts (degrees ms)) (ofInt (n * (n - 1)))

def correlation : Res Value := do
 let ds := degrees ms
 let nodes := (ms.zip ds).zipIdx
 let pairs := nodes.flatMap fun ((_, d), i) =>
  (nodes.filter fun ((m, _), j) => m && i < j).map fun ((_, e), _) => (d, e)
 let m : Int := pairs.length
 let s1 := ofInts (pairs.map fun (d, e) => e * d)
 let s2 := ofInts (pairs.map fun (d, e) => d * d + e * e)
 let s3 := ofInts (pairs.map fun (d, e) => d + e)
 let below := 2 * m * s2 - s3 * s3
 let above := 4 * m * s1 - s3 * s3
 if below = 0 then
  if above = 0 then return 1
  .error .badVal
 return .float (ofInt above / ofInt below)

def path (v s t : Value) : Res Value := do
 let cs <- if let .labelled <- form v then (<- sequence v).mapM fun p => return (<- p.nth 0, <- p.nth 1)
  else numbered v
 let nodes := cs.map (·.1)
 for x in [t, s] do
  if !nodes.contains x then
   discard x.filling
   .error .badVal
 if s == t then return [s]
 let far := max (nodes.idxOf s) (nodes.idxOf t)
 let isJoint p : Bool := p.2.same "d"
 if cs[far]?.any isJoint then return [s, t]
 return ((cs.drop far).reverse.find? isJoint).elim ((-1 : Int) |> .int) fun (x, _) => [s, x, t]

def pathLengths (v start : Value) : Res (List Int) := do
 let cs <- plain v
 let isJoint := cs.map (·.same "d")
 let i <- if let .labelled <- form v then do
   let nodes <- (<- sequence v).mapM (·.nth 0)
   if nodes.contains start then pure (.ofNat (nodes.idxOf start)) else .error .badVal
  else start.asInt
 let n : Int := cs.length
 let mut out := replicate cs.length 2
 out <- place out i 0
 for j in range (i + 1) n do if <- pick isJoint j then out <- place out j 1
 if <- pick isJoint i then for j in range 0 i do out <- place out j 1
 for j in (range 1 n).reverse do
  if <- pick isJoint j then break
  out <- place out j (-1)
 return out

def betweenness (normalized : Bool) : Res Vals := do
 let mut d := ofInt (countMarks ms)
 let mut irun := 0
 let mut drun := 0
 let mut base := .float 0.0
 let mut b := none
 let mut last := true
 let mut out := []
 for (m, i) in ms.zipIdx do
  if m then
   b := some (base + (<- div (.int ((irun - 1) * irun)) d) + (<- div (.int (2 * irun * (i - drun - irun))) d))
   drun := drun + 1
  else
   if last then
    base <- opt .unbound b
    d := d - ofInt drun
    drun := 0
    irun := 0
   b := some 0
   irun := irun + 1
  out := out ++ [(b.getD 0).toFloat]
  last := m
 if !normalized then return out.map .float
 let n : Int := ms.length
 let scale <- div (.float 1.0) (.int ((n - 1) * (n - 2)))
 return out.map fun x => .float (x * scale.toFloat)

def eigenvalues : Res (List Nat) := do
 let ds := (degrees ms).mergeSort fun a b => b ≤ a
 let top :: rest := ds | .error .beyond
 let mut out := []
 let mut value := 0
 let mut row := ds.length
 let mut big := top
 let mut left := rest
 for _ in [0:ds.length * (ds.length + 2) + 2] do
  if row = 0 then break
  if big < row then
   out := out ++ [value]
   row := row - 1
  else
   value := value + 1
   big := left.headD 0
   left := left.drop 1
 return out

structure Eigen where
 values : Vals := []
 vectors : Vals := []

def Eigen.add (e : Eigen) (value : Int) (parts : List (Int × Value)) : Eigen :=
 { values := e.values ++ [.int value]
   vectors := e.vectors ++ [.list (parts.flatMap fun (k, x) => replicate k.toNat x)] }

def Eigen.run (e : Eigen) (n st nn value : Int) : Eigen :=
 (range 1 nn).foldl (fun e d =>
  let i : Int := e.values.length
  let scale := 1.0 / (ofInt (i - st + d * d)).sqrt
  e.add value [(st, 0), (i - st, .float (-scale)), (1, ofInt d * scale), (n - i - 1, 0)]) e

def eigenvectors : Res Value := do
 let runs <- (<- sequence (<- compact v)).mapM (·.asInt)
 let n := ofInts runs
 let mut d := ofInts ((runs.zipIdx.filter (·.2 % 2 = 0)).map (·.1))
 let first :: rest := runs | .error .beyond
 let s <- div (.float 1.0) (.float (ofInt n).sqrt)
 let mut e : Eigen := {}
 e := e.add 0 [(n, s)]
 e := e.run n 0 first d
 d := d - first
 for (nn, k) in rest.zipIdx do
  let i : Int := e.values.length
  let scale := 1.0 / (ofInt (nn * i * (i + nn))).sqrt
  let value := if k % 2 = 1 then i + d else d
  e := e.add value [(i, ofInt (-nn) * scale), (nn, ofInt i * scale), (n - i - nn, 0)]
  if k % 2 = 1 then d := d - nn
  e := e.run n i nn value
 return .tuple [e.values, e.vectors]

def projection (u pairs : Value) : Res Vals := do
 let us <- u.items
 (<- (<- pairs.nth 1).items).mapM fun v =>
  return sum (<- ((<- v.items).zip us).mapM fun (x, y) => return (<- x.num) * (<- y.num))

/-! ## Sequences with given properties -/

def sign (d : Bool) : Value := if d then "d" else "i"

def setSign (cs : Vals) (i : Int) (d : Bool) : Res Vals := place cs i (sign d)

def sparse : Work (Vals × Int × Int × Bool) := do
 let n <- a.int 0
 let m <- a.num 1
 let cs := sign true :: replicate (n - 1).toNat (sign false)
 if m.lt n then return (<- setSign cs (<- a.int 1) true, n, 0, true)
 if lt (.float (ofInt (n * (n - 1)) / 2.0)) m then throw .badVal
 return (cs, n, <- a.int 1, false)

def rightmost : Work Value := do
 let (cs, n, m, done) <- sparse a
 if done then return cs
 let mut cs := cs
 let mut i := n - 1
 let mut sum := n - 1
 for _ in [0:n.toNat + 1] do
  if m ≤ sum then break
  cs <- setSign cs i true
  i := i - 1
  sum := sum + i
 return <- setSign cs (m - (sum - i)) true

def leftmost : Work Value := do
 let (cs, n, m, done) <- sparse a
 if done then return cs
 let mut cs <- setSign cs (n - 1) true
 let mut i := 1
 let mut sum := n - 1
 for _ in [0:n.toNat + 1] do
  if m ≤ sum then break
  cs <- setSign cs i true
  sum := sum + i
  i := i + 1
 if m < sum then cs <- setSign cs (sum - m) false
 return cs

def swapped (cs : Vals) (split combine : Num) : Draw Vals := do
 let isJoint cs i := cs[i]?.any (·.same "d")
 let isFree cs i := cs[i]?.any (·.same "i")
 let mut cs := cs
 let mut joints := ((cs.drop 1).dropLast.zipIdx.filter fun (x, _) => x.same "d").map (·.2)
 if <- chance split then
  let c <- choice joints
  let s <- choice (range c)
  let f := c - s
  if s != f && isFree cs s && isFree cs f then
   cs := ((cs.set c (sign false)).set s (sign true)).set f (sign true)
   joints := joints.erase c
 if (<- chance combine) && !joints.isEmpty then
  let c <- choice joints
  let d <- choice joints
  if !(cs.length ≤ c + d || isJoint cs (c + d) || c = d) then
   cs := ((cs.set c (sign false)).set d (sign false)).set (c + d) (sign true)
 return cs

def asking (name : String) (f : List Bool -> Res Value) : Cmd :=
 ⟨name, "creation_sequence", fun a => do f (<- marks (a 0))⟩

def ints (xs : List Int) : Value := .list (xs.map .int)

def cmds : List Cmd := Cmd.family "generators.threshold." [
 .of "is_threshold_graph" "G" fun g _ => return <- isThreshold (.list (g.succ.keys.map (g.degree ·))),
 ⟨"is_threshold_sequence", "degree_sequence", isThreshold⟩,
 ⟨"creation_sequence", "degree_sequence with_labels=False compact=False", fromDegrees⟩,
 ⟨"make_compact", "creation_sequence", compact⟩,
 ⟨"uncompact", "creation_sequence", uncompact⟩,
 ⟨"creation_sequence_to_weights", "creation_sequence", weights⟩,
 ⟨"weights_to_creation_sequence", "weights threshold=1 with_labels=False compact=False", fromWeights⟩,
 ⟨"threshold_graph", "creation_sequence create_using?", graph⟩,
 .of "find_alternating_4_cycle" "G" fun g _ => return ((alternatingCycle g).map list).getD false,
 .of "find_threshold_graph" "G create_using?" fun g a => do graph (<- creationOf g) (a 1),
 ⟨"find_creation_sequence", "G", creationOf⟩,
 asking "triangles" fun ms => return triangleCount ms,
 asking "triangle_sequence" fun ms => return ints (<- triangles ms),
 asking "cluster_sequence" fun ms => return <- clustering ms,
 asking "degree_sequence" fun ms => return ints (degrees ms),
 asking "density" fun ms => return <- density ms,
 asking "degree_correlation" correlation,
 ⟨"shortest_path", "creation_sequence u v", path⟩,
 ⟨"shortest_path_length", "creation_sequence i", fun a => return ints (<- pathLengths (a 0) (a 1))⟩,
 ⟨"betweenness_sequence", "creation_sequence normalized=True", fun a =>
  return <- betweenness (<- marks (a 0)) (a.truth 1)⟩,
 ⟨"eigenvectors", "creation_sequence", eigenvectors⟩,
 ⟨"spectral_projection", "u eigenpairs", projection⟩,
 asking "eigenvalues" fun ms => return .list ((<- eigenvalues ms).map .nat),
 ⟨"random_threshold_sequence", "n p seed?", fun a => do
  sow (a 2)
  let p <- a.num 1
  if !(p.le 1 && le 0 p) then throw .badVal
  return sign true :: (<- draw ((range 1 (<- a.int 0)).mapM fun _ => return sign (<- chance p)))⟩,
 ⟨"right_d_threshold_sequence", "n m", rightmost⟩,
 ⟨"left_d_threshold_sequence", "n m", leftmost⟩,
 ⟨"swap_d", "cs p_split=1.0 p_combine=1.0 seed?", fun a => do
  sow (a 3)
  return <- draw (swapped (<- sequence (a 0)) (<- a.num 1) (<- a.num 2))⟩]

end DexLens.Network.Threshold
