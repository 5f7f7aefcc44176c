import DexLens.Network.Matrix.Laplacian

/-! # Places for nodes

At random, on circles, by forces between nodes, or by eigenvectors.
-/

namespace DexLens.Network

open Float Grid List Matrix Work

namespace Single

section

variable (m e ahead : Int) (cs : List Float32) (x square : Float32)

def mulAdd (a b c : Float32) : Float32 := (a.toFloat * b.toFloat + c.toFloat).toFloat32

def polynomial : Float32 :=
 if let c :: cs := cs then cs.foldl (mulAdd · x ·) c else 0

def scaled : Float32 := (ofInt m * 2.0 ^ ofInt e).toFloat32

def cosineNear : Float32 :=
 polynomial [scaled 0x198e616 (-40), scaled (-0x16c06dc) (-34), scaled 0x155553c (-29), scaled (-1) (-1), 1] square

def sineNear : Float32 :=
 let r := polynomial [scaled 0x17d3bbc (-43), scaled (-0x1a06bba) (-37), scaled 0x111119a (-31),
  scaled (-0x1555556) (-27), 0] square
 mulAdd r x x

def wave : Float32 :=
 let magic := scaled 3 22
 let quarters := x * scaled 0x145f306 (-25) + magic - magic
 let x := mulAdd quarters (scaled (-0x1921fb0) (-24)) x
 let x := mulAdd quarters (scaled (-0x15110b4) (-46)) x
 let x := mulAdd quarters (scaled (-0x1846988) (-72)) x
 let square := x * x
 let quadrant := ((truncate? quarters.toFloat).getD 0 + ahead) % 4
 let y := if quadrant % 2 = 0 then sineNear x square else cosineNear square
 if 2 ≤ quadrant then 0 - y else y

def sine : Float32 := wave 0 x
def cosine : Float32 := wave 1 x

end

def angles (n : Nat) : List Float32 :=
 let full := 2.0 * 3.141592653589793
 let step := full / ofNat n
 let count := (full / step).ceil.toUInt64.toNat
 let delta := step.toFloat32
 (range count).map fun i => (ofNat i).toFloat32 * delta

end Single

namespace Layout

variable (v : Value) (a : Args) (m : Grid) (n : Nat)

def rescale (fit : Float -> Float) (m : Grid) (size : Float) : Res Grid := do
 if m.height = 0 && 0 < m.width then .error .badVal
 let least xs := xs.foldl (fun a b => if b < a || b.isNaN then b else a) (xs.headD 0)
 let columns := (range m.width).map fun j =>
  let xs := m.column j
  let low := least xs
  xs.map fun x => fit (x - low)
 let limit := columns.foldl (fun lim xs =>
  let top := most xs
  if lim > top then lim else top) 0
 let factor := fit (fit size / limit)
 return (ofRows m.height (columns.map fun xs => xs.map fun x => fit (x * factor))).transpose

def single (x : Float) : Float := x.toFloat32.toFloat

def place (xs : List Float) : Value := .array (xs.map .float)

def table (nodes : Vals) (m : Grid) : Res Value :=
 return .dict (Table.ofList (<- (nodes.zip m.rows).mapM fun (n, r) => return (<- n.key, place r)))

def alone (dim : Value) : Work Value := do
 let g <- graph v
 let n <- dim.asInt
 return .dict ((g.verts.take 1).map (·, .tuple (replicate n.toNat 1)))

def randomGrid (height width : Nat) : Work Grid :=
 return ofRows width (<- draw ((range height).mapM fun _ => (range width).mapM fun _ => random))

def dimension : Res Nat := do
 let d <- v.asInt
 if d < 0 then .error .badVal
 return d.toNat

def random : Work Value := do
 let nodes <- counted (a 0)
 table nodes ((<- randomGrid nodes.length (<- dimension (a 1))).map single)

def circle (radius : Float32) : Grid :=
 ofRows 2 ((Single.angles n).map fun t => [(radius * Single.cosine t).toFloat, (radius * Single.sine t).toFloat])

def circular : Work Value := do
 let nodes <- counted (a 0)
 if nodes.isEmpty then return .dict []
 if nodes.length = 1 then return <- alone (a 0) (a 1)
 table nodes (<- rescale single (circle nodes.length 1) (<- a.num 2).toFloat)

def shell : Work Value := do
 let nodes <- counted (a 0)
 if nodes.isEmpty then return .dict []
 if nodes.length = 1 then return <- alone (a 0) (a 2)
 let shells <- if a.isNull 1 then pure [(<- a.graph).verts] else (<- a.items 1).mapM counted
 let first <- opt .beyond shells.head?
 let inner := if first.length = 1 then 0 else 1
 let rows <- shells.zipIdx.mapM fun (nodes, i) => do
  if nodes.isEmpty then throw .byZero
  let .dict t <- table nodes (circle nodes.length (inner + ofNat i).toFloat32) | return []
  return t
 return .dict (Table.ofList rows.flatten)

/-! ## Forces -/

def distance (xs ys : List Float) : Float :=
 let d := (total ((xs.zip ys).map fun (x, y) => (x - y) * (x - y))).sqrt
 if d < 0.01 then 0.01 else d

def pushes (m pos : Grid) (k : Float) (isFixed : Nat -> Bool) : List (List Float) :=
 let rows := pos.rows
 rows.zipIdx.map fun (p, i) =>
  if isFixed i then p.map fun _ => 0
  else
   let parts := rows.zipIdx.map fun (q, j) =>
    let d := distance p q
    let force := k * k / (d * d) - m.get j i * d / k
    (p.zip q).map fun (x, y) => (x - y) * force
   (range pos.width).map fun c => total (parts.map (·.getD c 0))

def settle (isFixed stays : Nat -> Bool) (k : Float) (steps : Int) (pos : Grid) : Res Grid := do
 let delta <- Num.div (.float 0.1) (.float (ofInt (steps + 1)))
 let (pos, _) <- (range steps.toNat).foldlM (fun (acc : Grid × Float) _ => do
  let (pos, t) := acc
  let moves := (pushes m pos k isFixed).map fun r =>
   let l := (dot r r).sqrt
   let l := if l < 0.01 then 0.1 else l
   r.map (· * t / l)
  let moved := ofRows pos.width ((pos.rows.zip moves).zipIdx.map fun ((p, d), i) =>
   if stays i then p else (p.zip d).map fun (x, y) => x + y)
  return (<- rescale id moved 1, t - delta.toFloat)) (pos, 0.1)
 return pos

def forceMatrix : Work (Grid × Precision) := do
 match v with
 | .array _ | .sparse _ _ _ => return <- v.grid
 | _ => fail "fruchterman_reingold() takes an adjacency matrix as input"

def ideal : Res Float := do
 if v.isNull then
  if n = 0 then .error .byZero
  return (1.0 / ofNat n).sqrt
 return (<- v.num).toFloat

def firstPlaces (n dim : Nat) (p : Precision) : Work Grid := do
 let m <- match v with
  | .null => randomGrid n dim
  | .array _ => do pure (<- v.grid).1
  | _ => throw .noPart
 return m.map p.fit

def fixedPlaces : Work (List Int) := do
 match v with
 | .null => return []
 | v => (<- items v).mapM (·.asInt)

def forceDirected (isStored : Bool) : Work Value := do
 let (m, p) <- forceMatrix (a 0)
 let n := m.height
 let pos <- firstPlaces (a 3) n (<- dimension (a 1)) p
 let k <- ideal (a 2) n
 let steps <- a.int 5
 let fixed <- fixedPlaces (a 4)
 let isFixed (i : Nat) := fixed.any fun j => j == i || !isStored && j + n == i
 let m := if isStored then m.transpose else m
 if steps + 1 = 0 then throw .byZero
 if p = .whole then
  if 0 < steps then throw .inexact
  return pos.value p
 let none_ _ := false
 let settled <- if isStored then settle m isFixed none_ k steps pos else settle m none_ isFixed k steps pos
 return settled.value .double

def spring : Work Value := do
 let nodes <- counted (a 0)
 let n := nodes.length
 let fixed <- match a 4 with
  | .null => pure none
  | v => do
   let places <- (<- items v).mapM fun x => do opt .noKey (nodes.findIdx? (· == (<- x.key)))
   pure (some places)
 let dim <- dimension (a 1)
 let begun <- if a.isNull 3 then pure none else do
  let m <- randomGrid n dim
  let given <- a.dict 3
  let rows <- (nodes.zip m.rows).mapM fun (x, r) => do
   let some v := given.get? x | return r
   let xs <- (<- items v).mapM (·.entry)
   if xs.length = dim then return xs
   if xs.length = 1 then return replicate dim (xs.headD 0)
   throw .badVal
  pure (some (ofRows dim rows))
 if n = 0 then return .dict []
 if n = 1 then return <- alone (a 0) (a 1)
 let g <- a.graph
 let m <- adjacency g g.verts (a 6)
 let pos <- begun.elim (randomGrid n dim) pure
 let k <- ideal (a 2) n
 let steps <- a.int 5
 if fixed == some [] && 0 < steps then throw .beyond
 let settled <- settle m (fun _ => false) ((fixed.getD []).contains) k steps pos
 let none := fixed | table nodes settled
 table nodes (<- rescale id settled (<- a.num 7).toFloat)

/-! ## Eigenvectors -/

def spectralPlaces (dim : Nat) : Grid :=
 let (values, vectors) := (laplacian m).symmetricEigen
 let chosen := ((ascending values).drop 1).take dim
 ofRows chosen.length (vectors.rows.map fun r => chosen.map (r.getD · 0))

def spectral : Work Value := do
 let nodes <- counted (a 0)
 match nodes with
 | [] => return .dict []
 | [n] => return .dict [(n, .array [1, 1])]
 | [u, v] => return .dict [(u, place [0, 0.5]), (v, place [1, 0.5])]
 | _ =>
  let g <- a.graph
  let m <- adjacency g g.verts (a 2)
  let m := if g.directed then m + m.transpose else m
  table nodes (<- rescale id (spectralPlaces m (<- dimension (a 1))) (<- a.num 3).toFloat)

def springParams : String := "G dim=2 k? pos? fixed? iterations=50 weight= scale=1.0"

def cmds : List Cmd := [
 ⟨"random_layout", "G dim=2", random⟩,
 ⟨"circular_layout", "G dim=2 scale=1", circular⟩,
 ⟨"shell_layout", "G nlist? dim=2 scale=1", shell⟩,
 ⟨"fruchterman_reingold_layout", springParams, spring⟩,
 ⟨"spring_layout", springParams, spring⟩,
 ⟨"spectral_layout", "G dim=2 weight= scale=1", spectral⟩,
 ⟨"_fruchterman_reingold", "A dim=2 k? pos? fixed? iterations=50", (forceDirected · false)⟩,
 ⟨"_sparse_fruchterman_reingold", "A dim=2 k? pos? fixed? iterations=50", (forceDirected · true)⟩,
 ⟨"_spectral", "A dim=2", fun a => do
  let m <- if let .array _ := a 0 then do pure (<- (a 0).grid).1
   else fail "spectral() takes an adjacency matrix as input"
  return (spectralPlaces m (<- dimension (a 1))).value .double⟩,
 ⟨"_rescale_layout", "pos scale=1", fun a => do
  let (m, p) <- if let .array _ := a 0 then (a 0).grid else throw .noPart
  if p = .whole then throw .inexact
  return (<- rescale id m (<- a.num 1).toFloat).value .double⟩]

end Layout

end DexLens.Network
