import DexLens.Network.Isomorphism

/-! # Graphs of a regular shape -/

namespace DexLens.Network

open Work

namespace Generate

variable (n : Int) (a : Args) (base : Value) (ref : Value) (f : Graph -> Graph) (name : String)

def range (a b : Int) : List Int := (List.range (b - a).toNat).map fun i : Nat => a + i

def chain (a b : Int) : List (Int × Int) := (range a b).map fun v => (v, v + 1)

def allPairs (directed : Bool) : List (Int × Int) :=
 let ns := range 0 n
 ns.flatMap fun u => (ns.filter fun v => if directed then u != v else u < v).map (u, ·)

def pair (p : Int × Int) : Value × Value := (p.1, p.2)

def isDirected : Work Bool := do
 match base with
 | .graph _ => return (<- graph base).directed
 | .kind _ => throw .badKind
 | _ => throw .noPart

def noArcs (message : String := "Directed Graph not supported") : Work Unit := do
 if base.isNull then return
 if <- isDirected base then fail message

def blank (dflt : Graph := {}) : Work Value := do
 match base with
 | .null => keep dflt
 | .graph _ =>
  let g <- graph base
  if g.frozen then throw Method.frozenFault
  update base g.clear
  return base
 | .kind _ => throw .badKind
 | _ => throw .noPart

def alter : Work Unit := do update ref (f (<- graph ref))

def altered : Work Value := do
 alter ref f
 return ref

def empty (dflt : Graph := {}) : Work Value := do
 altered (<- blank base dflt) fun g => (g.addNodes ((range 0 n).map .int)).setName s!"empty_graph({n})"

def shape (edges : List (Int × Int)) : Work Value := do
 altered (<- empty n base) fun g => (g.addEdges (edges.map pair)).setName name

def count (i using_ : Nat) : Work Int := do
 if (a i).int?.isNone then discard (blank (a using_))
 a.int i

def path : Work Value := shape n base s!"path_graph({n})" (chain 0 (n - 1))

def cycle : Work Value := do
 altered (<- path n base) fun g =>
  let g := g.setName s!"cycle_graph({n})"
  if n > 1 then g.addEdge (.int (n - 1)) 0 else g

def complete : Work Value := do
 altered (<- empty n base) fun g => (g.addEdges ((allPairs n g.directed).map pair)).setName s!"complete_graph({n})"

def completeBipartite (n m : Int) (base : Value) : Work Value := do
 noArcs base
 shape (n + m) base s!"complete_bipartite_graph({n},{m})"
  ((range 0 n).flatMap fun u => (range 0 m).map (u, n + ·))

def star : Work Value := do altered (<- completeBipartite 1 n base) (·.setName s!"star_graph({n})")

def ladder : Work Value := do
 noArcs base
 shape (2 * n) base s!"ladder_graph_({n})"
  (chain 0 (n - 1) ++ chain n (2 * n - 1) ++ (range 0 n).map fun v => (v, v + n))

def treeEdges (n r : Int) : List (Int × Int) :=
 if r ≤ 0 then []
 else (range 1 n).map fun v => ((v - 1) / r, v)

def treeSize (r h : Int) : Res Int := do
 if r = 1 then return 2
 let power : Num <- if h + 1 ≥ 0 then pure (.int (.pow r (h + 1).toNat))
  else if r = 0 then .error .byZero
  else pure (.float (.pow (ofInt r) (ofInt (h + 1))))
 let q <- Num.div (1 - power) (.int (1 - r))
 let .int n <- q.value.toInt | .error .badKind
 return n

def extendedClique (first second : String) (extend : Int -> Int -> Graph -> Graph) : Work Value := do
 noArcs (a 2)
 if (<- a.num 0).lt 2 then fail s!"Invalid graph description, {first} should be >=2"
 if (<- a.num 1).lt 0 then fail s!"Invalid graph description, {second} should be >=0"
 let m <- count a 0 2
 altered (<- complete m (a 2)) (extend m (<- a.int 1))

def barbell : Work Value :=
 extendedClique a "m1" "m2" fun m k g =>
  let g := g.setName s!"barbell_graph({m},{k})"
  let g := g.addNodes ((range m (m + k - 1)).map .int)
  let chain := if k > 1 then chain m (m + k - 1) else []
  let second := (range (m + k) (2 * m + k)).flatMap fun u => (range (u + 1) (2 * m + k)).map (u, ·)
  let bridges := (m - 1, m) :: if k > 0 then [(m + k - 1, m + k)] else []
  g.addEdges ((chain ++ second ++ bridges).map pair)

def lollipop : Work Value :=
 extendedClique a "m" "n" fun m n g =>
  let g := g.addNodes ((range m (m + n)).map .int)
  let chain := if n > 1 then chain m (m + n - 1) else []
  (g.addEdges ((chain ++ [(m - 1, m)]).map pair)).setName
   s!"lollipop_graph({m},{n})"

def triangleGrowth : Work Value := do
 if !a.isNull 1 then
  noArcs (a 1)
  if (<- graph (a 1)).multi then fail "Multigraph not supported"
 let ref <- empty 0 (a 1)
 alter ref fun g => (g.setName "Dorogovtsev-Goltsev-Mendes Graph").addEdge 0 1
 let n <- a.int 0
 altered ref fun g => (List.range n.toNat).foldl (fun g _ =>
  g.edges.foldl (fun h e =>
   let v := .nat h.order
   (h.addEdge v e.src).addEdge v e.dst) g) g

def cell (i j : Int) : Value := .tuple [i, j]

def grid2d : Work Value := do
 let ref <- empty 0 (a 3)
 alter ref (·.setName "grid_2d_graph")
 let m <- a.int 0
 let n <- a.int 1
 let cells := (range 0 m).flatMap fun i => (range 0 n).map (i, ·)
 let some_ (keep : Int × Int -> Bool) di dj : Pairs :=
  (cells.filter keep).map fun (i, j) => (cell i j, cell (i + di) (j + dj))
 altered ref fun g =>
  let g := g.addNodes (cells.map fun (i, j) => cell i j)
  let g := (g.addEdges (some_ ((·.1 > 0)) (-1) 0)).addEdges (some_ ((·.2 > 0)) 0 (-1))
  let g := if g.directed then
   (g.addEdges (some_ (·.1 < m - 1) 1 0)).addEdges (some_ (·.2 < n - 1) 0 1)
   else g
  if !a.truth 2 then g
  else
   let across := (range 0 m).map fun i => (cell i 0, cell i (n - 1))
   let down := (range 0 n).map fun j => (cell 0 j, cell (m - 1) j)
   let both (es : Pairs) : Pairs := es ++ if g.directed then es.map fun (u, v) => (v, u) else []
   let g := if n > 2 then g.addEdges (both across) else g
   let g := if m > 2 then g.addEdges (both down) else g
   g.setName s!"periodic_grid_2d_graph({m},{n})"

def flat : Value -> Vals
 | .tuple xs => flatAll xs
 | v => [v]
where
 flatAll : Vals -> Vals
  | [] => []
  | x :: xs => flat x ++ flatAll xs

def grid (dims : Value) (periodic : Bool) : Work Value := do
 let label <- dims.filling
 let name := s!"grid_graph({label})"
 match dims with
 | .list [] => altered (<- empty 0 .null) (·.setName name)
 | .list ds =>
  let ns <- ds.mapM (opt (.graph .fail "dim is not a list of integers") ·.int?)
  if ns.any (· ≤ 0) then fail "dim is not a list of strictly positive integers"
  let line n : Work Graph := do graph (<- if periodic then cycle n .null else path n .null)
  let lines <- ns.reverse.mapM line
  let first :: rest := lines | throw .beyond
  let g <- rest.foldlM (fun g l =>
   Graph.product "Cartesian" (fun g h => g.edgesByNodes h ++ g.nodesByEdges h) l g.copy) first
  let h <- g.relabelled fun n => .ok (match n with
   | .tuple _ => .tuple (flat n)
   | n => n)
  keep (h.setName name)
 | _ => fail "dim is not a list of integers"

def titled (name title : String) (make : Value -> Work Value) : Cmd :=
 ⟨name, "create_using?", fun a => do altered (<- make (a 0)) (·.setName title)⟩

def sized (make : Int -> Value -> Work Value) : Cmd :=
 ⟨name, "n create_using?", fun a => do make (<- count a 0 1) (a 1)⟩

def sizedCommands : List Cmd := [
 { sized "empty_graph" (empty · ·) with params := "n=0 create_using?" },
 titled "null_graph" "null_graph()" (empty 0),
 titled "trivial_graph" "trivial_graph()" (empty 1),
 sized "path_graph" path, sized "cycle_graph" cycle, sized "complete_graph" complete,
 ⟨"complete_bipartite_graph", "n1 n2 create_using?", fun a => do
  noArcs (a 2)
  completeBipartite (<- count a 0 2) (<- count a 1 2) (a 2)⟩,
 ⟨"star_graph", "n create_using?", fun a => do
  noArcs (a 1)
  star (<- count a 0 1) (a 1)⟩,
 ⟨"wheel_graph", "n create_using?", fun a => do
  let n <- a.int 0
  altered (<- star (n - 1) (a 1)) fun g =>
   let g := (g.setName s!"wheel_graph({n})").addEdges
    ((chain 1 (n - 1)).map pair)
   if n > 2 then g.addEdge 1 (.int (n - 1)) else g⟩,
 ⟨"ladder_graph", "n create_using?", ladder⟩,
 ⟨"circular_ladder_graph", "n create_using?", fun a => do
  let n <- a.int 0
  altered (<- ladder n (a 1)) fun g =>
   ((g.setName s!"circular_ladder_graph({n})").addEdge 0 (.int (n - 1))).addEdge n
    (.int (2 * n - 1))⟩]

def cmds : List Cmd := sizedCommands ++ [
 ⟨"full_rary_tree", "r n create_using?", fun a => do
  let n <- count a 1 2
  let ref <- empty n (a 2)
  let r <- a.int 0
  altered ref (·.addEdges ((treeEdges n r).map pair))⟩,
 ⟨"balanced_tree", "r h create_using?", fun a => do
  let r <- a.int 0
  let n <- treeSize r (<- a.int 1)
  altered (<- empty n (a 2)) (·.addEdges ((treeEdges n r).map pair))⟩,
 ⟨"barbell_graph", "m1 m2 create_using?", barbell⟩,
 ⟨"lollipop_graph", "m n create_using?", lollipop⟩,
 ⟨"dorogovtsev_goltsev_mendes_graph", "n create_using?", triangleGrowth⟩,
 ⟨"grid_2d_graph", "m n periodic=False create_using?", grid2d⟩,
 ⟨"grid_graph", "dim periodic=False", grid⟩,
 ⟨"hypercube_graph", "n", fun a => do
  let n <- a.int 0
  altered (<- grid (.list (.replicate n.toNat 2)) false) (·.setName s!"hypercube_graph_({n})")⟩]

/-! # Small graphs that have a name -/

structure Described where
 (name title : String)
 rows : List (List Int)

/-- Rows of numbers, with commas between the rows. -/
def rows (s : String) : List (List Int) := (Text.split ',' s).map fun row => (Text.words row).filterMap Text.int?

def described : List Described := [
 ⟨"bull_graph", "Bull Graph", rows "2 3,1 3 4,1 2 5,2,3"⟩,
 ⟨"chvatal_graph", "Chvatal Graph", rows "2 5 7 10,3 6 8,4 7 9,5 8 10,6 9,11 12,11 12,9 12,11,11 12,,"⟩,
 ⟨"cubical_graph", "Platonic Cubical Graph", rows "2 4 5,1 3 8,2 4 7,1 3 6,1 6 8,4 5 7,3 6 8,2 5 7"⟩,
 ⟨"diamond_graph", "Diamond Graph", rows "2 3,1 3 4,1 2 4,2 3"⟩,
 ⟨"house_graph", "House Graph", rows "2 3,1 4,1 4 5,2 3 5,3 4"⟩,
 ⟨"house_x_graph", "House-with-X-inside Graph", rows "2 3 4,1 3 4,1 2 4 5,1 2 3 5,3 4"⟩,
 ⟨"icosahedral_graph", "Platonic Icosahedral Graph", rows "2 6 8 9 12,3 6 7 9,4 7 9 10,5 7 10 11,6 7 11 12,
     7 12,,9 10 11 12,10,11,12,"⟩,
 ⟨"krackhardt_kite_graph", "Krackhardt Kite Social Network", rows "2 3 4 6,1 4 5 7,1 4 6,1 2 3 5 6 7,2 4 7,
     1 3 4 7 8,2 4 5 6 8,6 7 9,8 10,9"⟩,
 ⟨"octahedral_graph", "Platonic Octahedral Graph", rows "2 3 4 5,3 4 6,5 6,5 6,6,"⟩,
 ⟨"petersen_graph", "Petersen Graph", rows "2 5 6,1 3 7,2 4 8,3 5 9,4 1 10,1 8 9,2 9 10,3 6 10,4 6 7,5 7 8"⟩,
 ⟨"truncated_cube_graph", "Truncated Cube Graph", rows "2 3 5,12 15,4 5,7 9,6,17 19,8 9,11 13,10,
     18 21,12 13,15,14,22 23,16,20 24,18 19,21,20,24,22,23,24,"⟩,
 ⟨"tutte_graph", "Tutte's Graph", rows "2 3 4,5 27,11 12,19 20,6 34,7 30,8 28,9 15,10 39,11 38,40,
     13 40,14 36,15 16,35,17 23,18 45,19 44,46,21 46,22 42,23 24,41,25 28,26 33,27 32,34,29,
     30 33,31,32 34,33,,,36 39,37,38 40,39,,,42 45,43,44 46,45,,"⟩]

def rowEdges (rows : List (List Int)) : List (Int × Int) :=
 rows.zipIdx.flatMap fun (row, v) => row.map (· - 1, v)

def described? (d : Value) : Res Vals :=
 match d with
 | .list xs | .tuple xs => .ok xs
 | .text _ => d.items
 | _ => .error .badKind

def part (xs : Vals) (i : Nat) : Res Value := opt .beyond xs[i]?

def fromDescription (d base : Value) : Work Value := do
 let xs <- described? d
 let form <- part xs 0
 let name <- part xs 1
 let n <- part xs 2
 let n <- if let .int n := n then pure n
  else
   discard (blank base)
   throw .badKind
 let ref <- empty n base
 let nodes := (<- graph ref).verts
 if form == "adjacencylist" then
  let rows <- part xs 3
  if (<- opt .badKind rows.size?) != n.toNat || n < 0 then fail "invalid graph_description"
  let es <- nodes.zipIdx.mapM fun (v, i) => do
   (<- (<- rows.nth i).items).mapM fun u => return .tuple [((<- u.num) - 1).value, v]
  edit ref (.addEdgesFrom es.flatten)
 else if form == "edgelist" then
  for e in <- items (<- part xs 3) do
   let u := (<- (<- e.nth 0).num) - 1
   let v := (<- (<- e.nth 1).num) - 1
   let outside x := x.lt 0 || Num.lt (.int (n - 1)) x
   if outside u || outside v then fail "invalid graph_description"
   alter ref (·.addEdge u v)
 altered ref (·.setAttr "name" name)

def chordal (n : Int) (shifts : List Int) (repeats : Int) (base : Value) : Work Value := do
 noArcs base
 if n ≤ 0 then return <- empty 0 base
 let ref <- cycle n base
 let k := (repeats * shifts.length).toNat
 let chords := (List.range k).map fun i : Nat => (i % n, (i + shifts.getD (i % shifts.length) 0) % n)
 altered ref fun g => (g.setName "LCF_graph").addEdges (chords.map pair)

def extended (make : Value -> Work Value) (edges : List (Int × Int)) (base : Value) : Work Value := do
 altered (<- make base) (·.addEdges (edges.map pair))

def chordalCommands : List Cmd := [
 titled "desargues_graph" "Desargues Graph" (chordal 20 [5, -5, 9, -9] 5),
 titled "dodecahedral_graph" "Dodecahedral Graph" (chordal 20 [10, 7, 4, -4, -7, 10, -4, 7, -7, 4] 2),
 titled "heawood_graph" "Heawood Graph" (chordal 14 [5, -5] 7),
 titled "moebius_kantor_graph" "Moebius-Kantor Graph" (chordal 16 [5, -5] 8),
 { titled "pappus_graph" "Pappus Graph" (chordal 18 [5, 7, -7, 7, -7, -5] 3) with params := "" },
 titled "frucht_graph" "Frucht Graph" (extended (cycle 7)
  [(0, 7), (1, 7), (2, 8), (3, 9), (4, 9), (5, 10), (6, 10), (7, 11), (8, 11), (8, 9), (10, 11)]),
 titled "sedgewick_maze_graph" "Sedgewick Maze" (extended (empty 8)
  [(0, 2), (0, 7), (0, 5), (1, 7), (2, 6), (3, 4), (3, 5), (4, 5), (4, 7), (4, 6)]),
 titled "tetrahedral_graph" "Platonic Tetrahedral graph" (complete 4),
 titled "truncated_tetrahedron_graph" "Truncated Tetrahedron Graph" (extended (path 12)
  [(0, 2), (0, 9), (1, 6), (3, 11), (4, 11), (5, 7), (8, 10)])]

def Described.command (d : Described) : Cmd :=
 ⟨d.name, "create_using?", fun a => do
  noArcs (a 0)
  shape d.rows.length (a 0) d.title (rowEdges d.rows)⟩

def smallCommands : List Cmd := described.map Described.command ++ chordalCommands ++ [
 ⟨"make_small_graph", "graph_description create_using?", fromDescription⟩,
 ⟨"generators.small.make_small_undirected_graph", "graph_description create_using?", fun a => do
  noArcs (a 1)
  fromDescription (a 0) (a 1)⟩,
 ⟨"LCF_graph", "n shift_list repeats create_using?", fun a => do
  noArcs (a 3)
  let n <- a.int 0
  if n ≤ 0 then return <- empty 0 (a 3)
  chordal n (<- (<- a.items 1).mapM (·.asInt)) (<- a.int 2) (a 3)⟩]

end Generate

end DexLens.Network

/-! # Graphs of people who know each other -/

namespace DexLens.Network

namespace Generate

def clubRows : List (List Int) := rows
 "1 2 3 4 5 6 7 8 10 11 12 13 17 19 21 31,2 3 7 13 17 19 21 30,
   3 7 8 9 13 27 28 32,7 12 13,6 10,6 10 16,16,,30 32 33,33,,,,33,32 33,32 33,,,32 33,33,
   32 33,,32 33,25 27 29 32 33,25 27 31,31,29 33,33,31 33,32 33,32 33,32 33,33"

def firstClub : List Int := [0, 1, 2, 3, 4, 5, 6, 7, 8, 10, 11, 12, 13, 16, 17, 19, 21]

def karateClub : Graph :=
 let g := ({} : Graph).addNodes ((range 0 34).map .int)
 let g := g.addEdges (clubRows.zipIdx.flatMap fun (row, i) => row.map fun j => pair (i, j))
 let g := (range 0 34).foldl (fun g n =>
  g.setNodeAttr n "club" (.text (if firstClub.contains n then "Mr. Hi" else "Officer"))) g
 g.setName "Zachary's Karate Club"

def attendance : List (String × List Nat) := [
 ("Evelyn Jefferson", [1, 2, 3, 4, 5, 6, 8, 9]),
 ("Laura Mandeville", [1, 2, 3, 5, 6, 7, 8]),
 ("Theresa Anderson", [2, 3, 4, 5, 6, 7, 8, 9]),
 ("Brenda Rogers", [1, 3, 4, 5, 6, 7, 8]),
 ("Charlotte McDowd", [3, 4, 5, 7]),
 ("Frances Anderson", [3, 5, 6, 8]),
 ("Eleanor Nye", [5, 6, 7, 8]),
 ("Pearl Oglethorpe", [6, 8, 9]),
 ("Ruth DeSand", [5, 7, 8, 9]),
 ("Verne Sanderson", [7, 8, 9, 12]),
 ("Myra Liddel", [8, 9, 10, 12]),
 ("Katherina Rogers", [8, 9, 10, 12, 13, 14]),
 ("Sylvia Avondale", [7, 8, 9, 10, 12, 13, 14]),
 ("Nora Fayette", [6, 7, 9, 10, 11, 12, 13, 14]),
 ("Helen Lloyd", [7, 8, 10, 11, 12]),
 ("Dorothy Murchison", [8, 9]),
 ("Olivia Carleton", [9, 11]),
 ("Flora Price", [9, 11])]

def southernWomen : Graph :=
 let event e : Value := .text s!"E{e}"
 let g := attendance.foldl (fun g (w, _) => g.addNode w [("bipartite", 0)]) {}
 let g := (List.range 14).foldl (fun (g : Graph) e => g.addNode (event (e + 1)) [("bipartite", 1)]) g
 g.addEdges (attendance.flatMap fun (w, es) => es.map (w, event ·))

def marriages : List (String × String) := [
 ("Acciaiuoli", "Medici"), ("Castellani", "Peruzzi"), ("Castellani", "Strozzi"),
 ("Castellani", "Barbadori"), ("Medici", "Barbadori"), ("Medici", "Ridolfi"), ("Medici", "Tornabuoni"),
 ("Medici", "Albizzi"), ("Medici", "Salviati"), ("Salviati", "Pazzi"), ("Peruzzi", "Strozzi"),
 ("Peruzzi", "Bischeri"), ("Strozzi", "Ridolfi"), ("Strozzi", "Bischeri"), ("Ridolfi", "Tornabuoni"),
 ("Tornabuoni", "Guadagni"), ("Albizzi", "Ginori"), ("Albizzi", "Guadagni"), ("Bischeri", "Guadagni"),
 ("Guadagni", "Lamberteschi")]

def socialCommands : List Cmd := [
 ⟨"karate_club_graph", "", karateClub⟩,
 ⟨"davis_southern_women_graph", "", southernWomen⟩,
 ⟨"florentine_families_graph", "", fun _ => keep (({} : Graph).addEdges (marriages.map fun (a, b) => (a, b)))⟩]

end Generate

end DexLens.Network
