import DexLens.Network.Matrix.Eigen

/-! # Matrices of graphs -/

namespace DexLens.Network

open Grid Value

inductive Precision where
 | whole
 | double
 | single
 deriving DecidableEq

namespace Precision

def fit : Precision -> Float -> Float
 | whole, x => if let some i := truncate? x then ofInt i else 0
 | double, x => x
 | single, x => x.toFloat32.toFloat

def value : Precision -> Float -> Value
 | whole, x => .int ((truncate? x).getD 0)
 | _, x => .float x

def doubleNames : List String := ["d", "f8", "float", "float64", "double"]
def singleNames : List String := ["f", "f4", "float32", "single"]
def wholeNames : List String := ["i", "i4", "i8", "l", "q", "int", "int32", "int64"]

def parse : Value -> Res (Option Precision)
 | .null => .ok none
 | .function n | .kind n | .text n =>
  if doubleNames.contains n then .ok (some double)
  else if singleNames.contains n then .ok (some single)
  else if wholeNames.contains n then .ok (some whole)
  else .error .badKind
 | _ => .error .badKind

end Precision

def Value.isWhole : Value -> Bool
 | int _ | bool _ => true
 | _ => false

def Value.entry : Value -> Res Float
 | null => .ok nan
 | list _ | tuple _ | array _ => .error .badVal
 | v => v.asFloat

def Value.grid (v : Value) : Res (Grid × Precision) := do
 let rows <- v.rows
 let numbers <- rows.mapM (·.mapM (·.asFloat))
 let width := (rows.head?.map (·.length)).getD 0
 let isWhole := rows.all (·.all isWhole) && rows.any (!·.isEmpty)
 return (ofRows width numbers, if isWhole then .whole else .double)

def Grid.value (p : Precision) (g : Grid) : Value := .array (g.rows.map fun r => .array (r.map p.value))

structure Stored where
 (height width : Nat)
 precision : Precision := .double
 entries : List (Nat × Nat × Float) := []

namespace Stored

variable (m : Stored) (g : Grid)

def grid : Grid := m.entries.foldl (fun g (i, j, x) => g.set i j (g.get i j + x)) (zero m.height m.width)

def entryValue (e : Nat × Nat × Float) : Value := .tuple [e.1, e.2.1, m.precision.value e.2.2]

def byColumns : List (Nat × Nat × Float) :=
 ((List.range m.width).flatMap fun j => (List.range m.height).map fun i => (i, j, g.get i j)).filter
  (·.2.2 != 0)

def byDiagonals : List (Nat × Nat × Float) :=
 let es := m.byColumns g
 (List.range (m.height + m.width)).flatMap fun k => es.filter fun (i, j, _) => j + m.height = k + i

def value (m : Stored) (format : Value) : Res Value := do
 let g := m.grid
 let rows := g.rows.map fun r => array (r.map m.precision.value)
 match format with
 | .text f =>
  if f = "coo" then return .sparse f (m.entries.map m.entryValue) rows
  if f = "dia" then return .sparse f ((m.byDiagonals g).map m.entryValue) rows
  if f = "dok" then return .sparse f ((m.byColumns g).map m.entryValue) rows
  if ["csr", "csc", "lil", "bsr"].contains f then return .sparse f [] rows
  if ["dense", "array"].contains f then return .array rows
  .error .badVal
 | .null => return .sparse "coo" (m.entries.map m.entryValue) rows
 | _ => .error .badKind

end Stored

namespace Matrix

variable (a : Args) (g : Graph) (v : Value) (nodes : Vals)

structure Frame where
 nodes : Vals

namespace Frame

def ofList : Res Frame := do
 let nodes <- nodes.mapM (·.key)
 if (uniq nodes).length != nodes.length then fail "Ambiguous ordering: \x60nodelist\x60 contained duplicates."
 return ⟨nodes⟩

def size (f : Frame) : Nat := f.nodes.length

def index? (f : Frame) (u v : Value) : Option (Nat × Nat) :=
 return (<- f.nodes.findIdx? (· == u), <- f.nodes.findIdx? (· == v))

end Frame

def counted : Work Vals := do
 let .stream _ := v | .items v
 throw .badKind

def frame (i : Nat) : Work Frame := do Frame.ofList (<- if a.isNull i then pure g.verts else counted (a i))

inductive Joining where
 | sum
 | least
 | greatest

def Joining.combine (j : Joining) (x y : Float) : Float :=
 if x.isNaN && y.isNaN then (match j with | sum => 0 | _ => nan)
 else if x.isNaN then y
 else if y.isNaN then x
 else match j with
  | sum => x + y
  | least => if y < x then y else x
  | greatest => if x < y then y else x

def Joining.parse : Value -> Res Joining
 | .function "sum" => .ok .sum
 | .function "min" => .ok .least
 | .function "max" => .ok .greatest
 | _ => .error .badVal

def dense (f : Frame) (joining : Res Joining) (weight : Value) (missing : Float) (p : Precision) : Res Grid := do
 let n := f.size
 let blank := build n n fun _ _ => nan
 let filled <- if g.multi then do
  let joining <- joining
  g.edges.foldlM (fun m e => do
   let some (i, j) := f.index? e.src e.dst | return m
   let x := p.fit (joining.combine (<- (e.get weight 1).num).toFloat (m.get i j))
   let m := m.set i j x
   return if g.directed then m else m.set j i x) blank
  else
   g.succ.foldlM (fun m (u, row) =>
    row.foldlM (fun m (v, b) => match f.index? u v with
     | some (i, j) => return m.set i j (p.fit (<- (b.items.getD weight 1).entry))
     | none => return m) m) blank
 return filled.map fun x => if x.isNaN then missing else x

def adjacency (weight : Value := "weight") : Res Grid := do
 dense g (<- Frame.ofList nodes) (.ok .sum) weight 0 .double

def checkLayout : Res Unit :=
 match v with
 | .null => .ok ()
 | .text s => if ["C", "F", "A", "K"].contains s then .ok () else .error .badVal
 | _ => .error .badKind

def toDense : Work Value := do
 let g <- a.graph
 let f <- frame a g 1
 let p := match <- Precision.parse (a 2) with
  | some .single => .single
  | _ => .double
 checkLayout (a 3)
 let m <- dense g f (Joining.parse (a 4)) (a 5) 0 p
 let missing <- (a 6).entry
 if missing == 0 then return m.value p
 return (<- dense g f (Joining.parse (a 4)) (a 5) (p.fit missing) p).value p

def entries (f : Frame) (weight : Value) (p : Option Precision) : Res Stored := do
 let n := f.size
 if n = 0 then fail "Graph has no nodes or edges"
 if g.size = 0 then return { height := n, width := n, precision := p.getD .double }
 let found := (g.edgesOf (f.nodes.filter g.hasNode)).filterMap fun e =>
  (f.index? e.src e.dst).map fun (i, j) => (i, j, e.get weight 1)
 if found.isEmpty then .error .badVal
 let weights := found.map (·.2.2)
 if p.isNone then
  if weights.any fun w => match w with | .int _ | .bool _ | .float _ | .text _ => false | _ => true then
   .error .badVal
  if weights.any fun w => match w with | .text _ => true | _ => false then .error .badKind
 let p := p.getD (if weights.all isWhole then .whole else .double)
 let numbers <- found.mapM fun (i, j, w) => return (i, j, p.fit (<- w.entry))
 let both := if g.directed then numbers else numbers ++ numbers.map fun (i, j, x) => (j, i, x)
 return ⟨n, n, p, both⟩

def stored (weight : Value) (p : Option Precision) : Res Grid :=
 return (<- entries g (<- Frame.ofList g.verts) weight p).grid

def storedEntries (nodes weight : Nat) (p : Option Precision) : Work Stored := do
 let g <- a.graph
 entries g (<- frame a g nodes) (a weight) p

/-! ## Matrices of records -/

inductive Field where
 | number (p : Precision)
 | text (length : Nat)
 | bytes (length : Nat)

namespace Field

def parse (v : Value) : Res Field := do
 let .text s := v | number?
 let rest := String.ofList (s.toList.drop 1)
 match s.toList.head?, rest.toNat? with
 | some 'U', some n => .ok (text n)
 | some 'S', some n | some 'a', some n => .ok (bytes n)
 | _, _ => number?
where
 number? : Res Field := do return (<- Precision.parse v).elim (number .double) number

def hold (f : Field) (v : Value) : Res Value := do
 match f with
 | number p => return p.value (p.fit (<- v.entry))
 | text n => return .text (.ofList (v.shown.toList.take n))
 | bytes n => return .bytes (v.shown.toUTF8.toList.take n)

def blank : Field -> Value
 | number p => p.value 0
 | text _ => ""
 | bytes _ => .bytes []

end Field

def fields : Res (Option (List (Value × Field))) := do
 match v with
 | .text "records" => return some [("weight", .number .double)]
 | .list parts =>
  return some (<- parts.mapM fun p =>
   match p with
   | .tuple [.text n, t] => return (.text n, <- Field.parse t)
   | .tuple [.text n] => .ok (.text n, .number .double)
   | _ => .error .badKind)
 | v =>
  discard (Precision.parse v)
  return none

def toRecords : Work Value := do
 let g <- a.graphNot "multigraph"
 let f <- frame a g 1
 let parts <- fields (a 2)
 checkLayout (a 3)
 let n := f.size
 let inside := g.edges.filterMap fun e => (f.index? e.src e.dst).map fun (i, j) => (i, j, e)
 match parts with
 | none =>
  if !inside.isEmpty then throw .badKind
  let p := (<- Precision.parse (a 2)).getD .double
  return (zero n n).value p
 | some parts =>
  let blank := Array.replicate n (Array.replicate n (tuple (parts.map (·.2.blank))))
  let cells <- inside.foldlM (fun m (i, j, e) => do
   let values <- parts.mapM fun (name, _) => e.items.get name
   let held <- (parts.zip values).mapM fun ((_, t), v) => t.hold v
   let m := m.modify i (·.setIfInBounds j (.tuple held))
   return if g.directed then m else m.modify j (·.setIfInBounds i (.tuple held))) blank
  let rows := cells.toList.map (array ·.toList)
  return .object "recarray" [("rows", .array rows), ("names", .list (parts.map (·.1)))]

def cmds : List Cmd := [
 ⟨"to_numpy_matrix", "G nodelist? dtype? order? multigraph_weight=sum weight= nonedge=0.0", toDense⟩,
 ⟨"from_numpy_matrix", "A create_using?", .ofMatrix⟩,
 ⟨"to_numpy_recarray", "G nodelist? dtype=records order?", toRecords⟩,
 .of "to_scipy_sparse_matrix" "G nodelist? dtype? weight= format=csr" fun g a => do
  let f <- frame a g 1
  if f.nodes.isEmpty then fail "Graph has no nodes or edges"
  (<- entries g f (a 3) (<- Precision.parse (a 2))).value (a 4),
 ⟨"from_scipy_sparse_matrix", "A create_using? edge_attribute=weight", .ofSparse⟩]

end Matrix

end DexLens.Network
