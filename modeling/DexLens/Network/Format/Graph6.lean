import DexLens.Network.Format.Lines

/-! # Graphs as short texts of printable characters

Each character stands for six bits, of the upper half of the matrix or of a list of edges.
-/

namespace DexLens.Network.Graph6

open Files List String Text Value

variable (n : Nat) (v path : Value) (data : List Nat) (s : String)

def units? : Option (List Nat) :=
 s.toList.mapM fun c => if 63 ≤ c.toNat && c.toNat ≤ 126 then some (c.toNat - 63) else none

def written : String := ofList (data.map fun d => .ofNat (d + 63))

def combine (ds : List Nat) : Nat := ds.foldl (· * 64 + ·) 0

def sizeOf : Res (Nat × List Nat) := do
 let d :: rest := data | .error .beyond
 if d ≤ 62 then .ok (d, rest)
 else
  let e :: _ := rest | .error .beyond
  if e ≤ 62 then if rest.length < 3 then .error .beyond else .ok (combine (rest.take 3), rest.drop 3)
  else if rest.length < 7 then .error .beyond
  else .ok (combine ((rest.drop 1).take 6), rest.drop 7)

def split (count : Nat) : List Nat := (range count).reverse.map (n / Nat.pow 64 · % 64)

def ofSize (n : Int) : Res (List Nat) :=
 if n < 0 then fail "Numbers in graph6 format must be non-negative."
 else if n ≤ 62 then .ok [n.toNat]
 else if n ≤ 258047 then .ok (63 :: split n.toNat 3)
 else if n ≤ 68719476735 then .ok (63 :: 63 :: split n.toNat 6)
 else fail "Numbers above 68719476735 are not supported by graph6"

def bits (d : Nat) : List Bool := [32, 16, 8, 4, 2, 1].map (d / · % 2 == 1)

section

variable (g : Graph) (ns : Vals) (pad header : Bool)

def unit (bs : List Bool) : Nat := (bs ++ replicate (6 - bs.length) pad).foldl (fun n b => 2 * n + if b then 1 else 0) 0

def pack (pad : Bool) : Nat -> List Bool -> List Nat
 | 0, _ => []
 | fuel + 1, bs => if bs.isEmpty then [] else unit pad (bs.take 6) :: pack pad fuel (bs.drop 6)

def pairs : List (Nat × Nat) := (range n).flatMap fun j => (range j).map (·, j)

def text : Value -> Res String
 | .text s => .ok s
 | .bytes _ => .error .badKind
 | _ => .error .noPart

def behind (header : String) : Res String := do
 let s <- text v
 return (dropLeading? header.toList s.toList).elim s ofList

def parse : Res Graph := do
 let s <- behind v ">>graph6<<"
 let some data := units? s | .error .badKind
 let (n, data) <- sizeOf data
 let count := n * (n - 1) / 2
 if data.length != (count + 5) / 6 then fail s!"Expected {count} bits but got {data.length * 6} in graph6"
 let g := ({} : Graph).addNodes ((range n).map nat)
 return g.addEdges ((((pairs n).zip (data.flatMap bits)).filter (·.2)).map fun ((i, j), _) => (i, j))

def generate : Res String := do
 let n := g.order
 let size <- ofSize n
 let bs <- (pairs n).mapM fun (i, j) => do
  g.hasEdgeKey (<- opt .beyond ns[i]?) (<- opt .beyond ns[j]?) .null
 return (if header then ">>graph6<<" else "") ++ written (size ++ pack false (bs.length + 1) bs)

def width : Nat := ((range (n + 1)).find? fun k => k ≥ 1 && .pow 2 k ≥ n).getD 1

def steps (k : Nat) : Nat -> List Bool -> List (Bool × Nat)
 | 0, _ => []
 | fuel + 1, bs =>
  match bs with
  | [] => []
  | b :: rest =>
   if rest.length < k then []
   else (b, (rest.take k).foldl (fun n b => 2 * n + if b then 1 else 0) 0) :: steps k fuel (rest.drop k)

def parseSparse : Res Graph := do
 let ':' :: rest := (<- behind v ">>sparse6<<").toList | fail "Expected leading colon in sparse6"
 let some data := units? (ofList rest) | .error .badKind
 let (n, data) <- sizeOf data
 let bs := data.flatMap bits
 let mut v := 0
 let mut g := (Graph.new false true).addNodes ((range n).map nat)
 let mut repeated := false
 for (b, x) in steps (width n) (bs.length + 1) bs do
  if b then v := v + 1
  if x ≥ n || v ≥ n then break
  if x > v then v := x
  else
   if g.hasEdge (.nat x) (.nat v) then repeated := true
   g := g.addEdge (.nat x) (.nat v)
 if repeated then return g else ({} : Graph).converted g

def node (k x : Nat) : List Bool := (range k).reverse.map (x / .pow 2 · % 2 == 1)

def generateSparse : Res String := do
 let n := g.order
 let k := width n
 let index : Table Nat <- ns.zipIdx.foldlM (fun t (v, i) => return t.put (<- v.key) i) []
 let es <- g.edges.mapM fun e => do
  let u <- index.get e.src
  let v <- index.get e.dst
  return (max u v, min u v)
 let sorted := es.mergeSort fun a b => a.1 < b.1 || (a.1 == b.1 && a.2 ≤ b.2)
 let (bs, current) := sorted.foldl (fun acc (v, u) =>
  let (bs, current) := acc
  if v = current then (bs ++ false :: node k u, current)
  else if v = current + 1 then (bs ++ true :: node k u, v)
  else (bs ++ true :: node k v ++ false :: node k u, v)) ([], 0)
 let missing := (6 - bs.length % 6) % 6
 let bs := if k < 6 && n = .pow 2 k && missing ≥ k && current + 1 < n then bs ++ [false] else bs
 return (if header then ">>sparse6<<" else "") ++ ":" ++ written (<- ofSize n) ++ written (pack true (bs.length + 1) bs)

end

def readAll (parse : Value -> Res Graph) : Work Value := do
 let lines <- if let .text name := path then do
   let s <- decode .unicode (<- blob name)
   .items (.input s false)
  else .items path
 let gs <- lines.filterMapM fun l => do
  match l with
  | .text s =>
   let s := strip s
   if s = "" then return none else return some (<- keep (<- parse (.text s)))
  | .bytes b => if b.all (fun c => isBlank (.ofNat c.toNat)) then return none else throw .badKind
  | _ => throw .noPart
 match gs with
 | [g] => return g
 | gs => return .list gs

def writeText : Work Unit := do
 match path with
 | .text name => store name s.toUTF8.toList
 | .output | .input _ true => throw .badKind
 | .input _ false => return
 | _ => throw .noPart

def order (a : Args) (g : Graph) (i : Nat) : Work Vals := if a.isNull i then return g.verts else a.items i

/-- What is done with texts of one format: they are parsed, read, made and written. -/
def formatCommands (name kinds : String) (parse : Value -> Res Graph)
 (generate : Graph -> Vals -> Bool -> Res String) : List Cmd := [
 ⟨"parse_" ++ name, "string", fun a => do keep (<- parse (a 0))⟩,
 ⟨"read_" ++ name, "path", fun a => readAll (a 0) parse⟩,
 ⟨"generate_" ++ name, "G nodes? header=True", fun a => do
  let g <- a.graphNot kinds
  return <- generate g (<- order a g 1) (a.truth 2)⟩,
 ⟨"write_" ++ name, "G path nodes? header=True", opening 1 fun a => do
  let g <- a.graphNot kinds
  writeText (a 1) ((<- generate g (<- order a g 2) (a.truth 3)) ++ "\n")⟩]

def cmds : List Cmd := formatCommands "graph6" "directed multigraph" parse generate ++
 formatCommands "sparse6" "directed" parseSparse generateSparse ++ [
 ⟨"readwrite.graph6.n_to_data", "n", fun a => return (<- ofSize (<- a.int 0)).map nat⟩,
 ⟨"readwrite.graph6.data_to_n", "data", fun a => do
  let ds <- (<- a.items 0).mapM (·.asInt)
  let (n, rest) <- sizeOf (ds.map Int.toNat)
  return .tuple [n, rest.map nat]⟩,
 ⟨"readwrite.graph6.graph6_to_data", "string", fun a =>
  return (units? (<- text (a 0))).elim .null (·.map nat)⟩,
 ⟨"readwrite.graph6.data_to_graph6", "data", fun a => do
  let ds <- (<- a.items 0).mapM (·.asInt)
  if ds.any fun d => d < 0 || d > 63 then fail "graph6 data units must be within 0..63"
  return written (ds.map Int.toNat)⟩]

end DexLens.Network.Graph6
