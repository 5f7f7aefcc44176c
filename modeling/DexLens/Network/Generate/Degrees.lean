import DexLens.Network.Generate.Classic

/-! # Sequences of degrees, and graphs that have them -/

namespace DexLens.Network

open Total Value

namespace Degrees

variable (ds : List Int)

def wholes? (xs : Vals) : Option (List Int) := xs.mapM int?

def ofList? : Value -> Option (List Int)
 | .list xs => wholes? xs
 | _ => none

/-- The greatest and the least degree above zero, how many there are, and how often each occurs. -/
structure Profile where
 (top low count : Nat)
 occurs : Nat -> Nat

def profile? : Option Profile :=
 let p := ds.length
 if ds.any fun d => d < 0 || d ≥ p then none
 else
  let ns := (ds.filter (· > 0)).map Int.toNat
  let sum := ofNats ns
  let n := ns.length
  if sum % 2 = 1 || sum > n * (n - 1) then none
  else some ⟨ns.foldl max 0, ns.foldl min p, n, ns.count⟩

def Profile.easy (p : Profile) : Bool := p.count = 0 || 4 * p.low * p.count ≥ (p.top + p.low + 1) * (p.top + p.low + 1)

def isGraphicalBySums : Bool :=
 match profile? ds with
 | none => false
 | some p =>
  p.easy || Id.run do
   let mut k := 0
   let mut sumDeg := 0
   let mut sumN := 0
   let mut sumJn := 0
   for i in [0:p.top + 1 - p.low] do
    let d := p.top - i
    if d < k + 1 then return true
    if p.occurs d > 0 then
     let run := if d < k + p.occurs d then d - k else p.occurs d
     sumDeg := sumDeg + run * d
     for v in [0:run] do
      sumN := sumN + p.occurs (k + v)
      sumJn := sumJn + (k + v) * p.occurs (k + v)
     k := k + run
     if sumDeg > k * ((p.count : Int) - 1) - k * sumN + sumJn then return false
   return true

/-- The stubs of nodes by the number of edges that they still need, each list a stack. -/
abbrev Stacks := Array (List Nat)

def Stacks.push (s : Stacks) (k v : Nat) : Stacks := s.modify k (v :: ·)

def Stacks.highest (s : Stacks) : Nat -> Nat
 | 0 => 0
 | k + 1 => if (s.getD (k + 1) []).isEmpty then s.highest k else k + 1

def greedyEdges (start : Stacks) (nodes top : Nat) : Option (List (Nat × Nat)) := Id.run do
 let mut s := start
 let mut n := nodes
 let mut top := top
 let mut edges : Array (Nat × Nat) := #[]
 for _ in [0:nodes + 1] do
  if n = 0 then break
  top := s.highest top
  if top > n - 1 then return none
  let src :: rest := s.getD top [] | return none
  s := s.set! top rest
  n := n - 1
  let mut again : List (Nat × Nat) := []
  let mut k := top
  for _ in [0:top] do
   k := s.highest k
   let dst :: rest := s.getD k [] | return none
   s := s.set! k rest
   edges := edges.push (src, dst)
   n := n - 1
   if k > 1 then again := again ++ [(k - 1, dst)]
  for (left, v) in again do
   s := s.push left v
   n := n + 1
 return edges.toList

def stacksOf : Stacks × Nat × Nat :=
 let needy := (ds.filter (· > 0)).map Int.toNat
 let s := needy.zipIdx.foldl (fun s (d, v) => s.push d v) (.replicate (ds.length + 1) [])
 (s, needy.length, needy.foldl max 0)

def isGraphicalByBuilding : Bool :=
 match profile? ds with
 | none => false
 | some p =>
  p.easy || let (s, n, top) := stacksOf ds
   (greedyEdges s n top).isSome

def isMultigraphical : Bool := ds.all (· ≥ 0) && ofInts ds % 2 == 0 && ofInts ds ≥ 2 * ds.foldl max 0

/-- How many edges may leave a node, negated, how many must enter it, negated, and its number. -/
abbrev Stub := Int × Int × Int

def Stub.before (a b : Stub) : Bool :=
 if a.1 != b.1 then a.1 < b.1 else if a.2.1 != b.2.1 then a.2.1 < b.2.1 else a.2.2 < b.2.2

def insertStub (x : Stub) : List Stub -> List Stub
 | [] => [x]
 | y :: ys => if x.before y then x :: y :: ys else y :: insertStub x ys

inductive DirectedFault where
 | negative
 | unequal
 | impossible

def directedEdges (ins outs : List Int) : Except (DirectedFault × List (Int × Int)) (List (Int × Int)) := do
 let n := max ins.length outs.length
 let stubs := (List.range n).map fun i => (-outs.getD i 0, -ins.getD i 0, (i : Int))
 if stubs.any fun s => s.1 > 0 || s.2.1 > 0 then throw (.negative, [])
 if ofInts ins != ofInts outs then throw (.unequal, [])
 let mut waiting := (stubs.filter (·.2.1 < 0)).foldl (fun acc s => insertStub s acc) []
 let mut givers := (stubs.filter fun s => s.2.1 == 0 && s.1 < 0).foldl (fun acc s => insertStub s acc) []
 let mut edges : Array (Int × Int) := #[]
 for _ in [0:n + 1] do
  let (out, need, dst) :: rest := waiting | break
  waiting := rest
  if -need > (waiting.length + givers.length : Nat) then throw (.impossible, edges.toList)
  let mut again := []
  for _ in [0:(-need).toNat] do
   let fromGivers := match givers, waiting with
    | [], _ => false
    | _ :: _, [] => true
    | g :: _, w :: _ => w.1 > g.1
   let pick := if fromGivers then givers.head? else waiting.head?
   if fromGivers then givers := givers.drop 1 else waiting := waiting.drop 1
   let some (o, i, src) := pick | throw (.impossible, edges.toList)
   if o == 0 then throw (.impossible, edges.toList)
   edges := edges.push (src, dst)
   if o + 1 < 0 || i < 0 then again := again ++ [(o + 1, i, src)]
  for s in again do if s.2.1 < 0 then waiting := insertStub s waiting else givers := insertStub s givers
  if out < 0 then givers := insertStub (out, 0, dst) givers
 return edges.toList

def DirectedFault.message : DirectedFault -> String
 | negative => "Invalid degree sequences. Sequence values must be positive."
 | unequal => "Invalid degree sequences. Sequences must have equal sums."
 | impossible => "Non-digraphical integer sequence"

end Degrees

namespace Generate

open Degrees

variable (a : Args)

def graphical (v method : Value) : Work Bool := do
 let check f := return (wholes? (<- .items v)).any f
 if method == "eg" then check isGraphicalBySums
 else if method == "hh" then check isGraphicalByBuilding
 else throw (.graph .general "\x60method\x60 must be 'eg' or 'hh'")

def sizeName (g : Graph) (what : String) : Graph := g.setName s!"{what} {g.order} nodes {g.size} edges"

def size (v : Value) : Res Nat := opt .badKind v.size?

def couples : Vals -> Pairs
 | u :: v :: rest => (u, v) :: couples rest
 | _ => []

def greedyGraph : Work Value := do
 if !(<- graphical (a 0) "eg") then fail "Invalid degree sequence"
 noArcs (a 1) "Directed graphs are not supported"
 let p <- size (a 0)
 let ref <- empty p (a 1)
 let ds := (wholes? (<- a.items 0)).getD []
 let (s, n, top) := stacksOf ds
 if n = 0 then return ref
 let some es := greedyEdges s n top | fail "Non-graphical integer sequence"
 altered ref fun g => sizeName (es.foldl (fun g (u, v) => g.addEdge u v) g) "havel_hakimi_graph"

def directedGreedyGraph : Work Value := do
 let (some ins, some outs) := (ofList? (a 0), ofList? (a 1)) | throw .broken
 let n := max ins.length outs.length
 let ref <- empty n (a 2) (.new true false)
 if n = 0 then return ref
 let add (es : List (Int × Int)) := alter ref (·.addEdges (es.map pair))
 match directedEdges ins outs with
 | .error (f, es) =>
  add es
  fail f.message
 | .ok es =>
  add es
  altered ref (sizeName · "directed_havel_hakimi_graph")

def treeWithDegrees : Work Value := do
 let n <- size (a 0)
 let ds <- (<- a.items 0).mapM (·.num)
 let half <- (Num.sum ds).div (.float 2.0)
 if !(.float (ofInt n) - half == .float 1.0) then fail "Degree sequence invalid"
 noArcs (a 1)
 if n = 1 then return <- empty 0 (a 1)
 let inner <- sorted (((<- a.items 0).zip ds).filterMap fun (v, d) => if Num.lt 1 d then some v else none)
 let m : Int := inner.length + 2
 let ref <- path m (a 1)
 let _ <- inner.zipIdx.foldlM (fun last (d, i) => do
  let more := (<- d.asInt) - 2
  alter ref (·.addEdges ((range last (last + more)).map fun t => pair (i + 1, t)))
  return last + more) m
 if (<- .graph ref).order > n then alter ref (·.removeNode 0)
 return ref

def stubsOf (ds : Vals) (first : Nat := 0) : Res Vals :=
 return (<- ds.zipIdx.mapM fun (d, v) => return .replicate (<- d.asInt).toNat (nat (first + v))).flatten

def randomPairs : Work Value := do
 let ds <- a.items 0
 let even := match <- sumOf ds with
  | .int i => i % 2 == 0
  | .float x => x - 2 * (x / 2).floor == 0
 if !even then fail "Invalid degree sequence"
 noArcs (a 1)
 sow (a 2)
 let ref <- empty (<- size (a 0)) (a 1) (.new false true)
 if ds.isEmpty then return ref
 if (<- greatest ds) == 0 then return ref
 let stubs <- draw (.shuffle (<- stubsOf ds))
 alter ref (·.addEdges (couples stubs.reverse))
 if stubs.length % 2 = 1 then throw .beyond
 altered ref (sizeName · "configuration_model")

def directedRandomPairs : Work Value := do
 let ins <- a.items 0
 let outs <- a.items 1
 if !(<- sumOf ins) == (<- sumOf outs) then fail "Invalid degree sequences. Sequences must have equal sums."
 sow (a 3)
 let (n, m) := (ins.length, outs.length)
 let .list _ := if n > m then a 1 else a 0 | throw .noPart
 pure ()
 let pad xs k : Vals := xs ++ List.replicate (k - xs.length) 0
 let ins := pad ins m
 let outs := pad outs n
 let ref <- empty ins.length (a 2) (.new true true)
 if ins.isEmpty then return ref
 if (<- greatest ins) == 0 then return ref
 let inStubs <- stubsOf ins
 let outStubs <- stubsOf outs
 let inStubs <- draw (.shuffle inStubs)
 let outStubs <- draw (.shuffle outStubs)
 altered ref fun g => sizeName (g.addEdges (outStubs.reverse.zip inStubs.reverse)) "directed configuration_model"

def commandsByDegrees : List Cmd := [
 ⟨"is_graphical", "sequence method=eg", graphical⟩,
 ⟨"is_valid_degree_sequence", "sequence method=eg", graphical⟩,
 ⟨"is_valid_degree_sequence_erdos_gallai", "deg_sequence", fun a =>
  return .bool ((ofList? (a 0)).any isGraphicalBySums)⟩,
 ⟨"is_valid_degree_sequence_havel_hakimi", "deg_sequence", fun a =>
  return .bool ((ofList? (a 0)).any isGraphicalByBuilding)⟩,
 ⟨"is_multigraphical", "sequence", fun a => return .bool ((wholes? (<- a.items 0)).any isMultigraphical)⟩,
 ⟨"is_pseudographical", "sequence", fun a => do
  let some ds := wholes? (<- a.items 0) | return .bool false
  if ofInts ds % 2 != 0 then return .bool false
  if ds.isEmpty then throw .badVal
  return .bool (ds.all (· ≥ 0))⟩,
 ⟨"is_digraphical", "in_sequence out_sequence", fun a => do
  let (some ins, some outs) := (wholes? (<- a.items 0), wholes? (<- a.items 1)) | return false
  let .error _ := directedEdges ins outs | return .bool true
  return false⟩,
 ⟨"havel_hakimi_graph", "deg_sequence create_using?", greedyGraph⟩,
 ⟨"directed_havel_hakimi_graph", "in_deg_sequence out_deg_sequence create_using?", directedGreedyGraph⟩,
 ⟨"degree_sequence_tree", "deg_sequence create_using?", treeWithDegrees⟩,
 ⟨"configuration_model", "deg_sequence create_using? seed?", randomPairs⟩,
 ⟨"directed_configuration_model", "in_degree_sequence out_degree_sequence create_using? seed?", directedRandomPairs⟩]

end Generate

end DexLens.Network
