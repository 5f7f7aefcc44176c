import DexLens.Network.Threshold

/-! # Grids of numbers -/

namespace DexLens.Network

open Float List

structure Grid where
 (height width : Nat)
 cells : Array (Array Float)

namespace Grid

variable (g : Grid) (xs : List Float) (i j : Nat) (x : Float) (height width : Nat) (n : Nat)

def nan : Float := 0.0 / 0.0

def get : Float := (g.cells.getD i #[]).getD j 0

def build (f : Nat -> Nat -> Float) : Grid :=
 ⟨height, width, (Array.range height).map fun i => (Array.range width).map (f i)⟩

def ofRows (width : Nat) (rows : List (List Float)) : Grid := ⟨rows.length, width, (rows.map toArray).toArray⟩

def rows : List (List Float) := g.cells.toList.map Array.toList

def row (i : Nat) : List Float := (g.cells.getD i #[]).toList
def column (j : Nat) : List Float := g.cells.toList.map (·.getD j 0)

def set : Grid := { g with cells := g.cells.modify i (·.setIfInBounds j x) }

def setRow (i : Nat) (xs : List Float) : Grid := { g with cells := g.cells.setIfInBounds i xs.toArray }

def zero : Grid := build height width fun _ _ => 0

def unit : Grid := build n n fun i j => if i = j then 1 else 0

def diagonal : Grid :=
 let a := xs.toArray
 build a.size a.size fun i j => if i = j then a.getD i 0 else 0

def map (f : Float -> Float) (g : Grid) : Grid := { g with cells := g.cells.map (·.map f) }

def zip (f : Float -> Float -> Float) (g h : Grid) : Grid := build g.height g.width fun i j => f (g.get i j) (h.get i j)

instance : Add Grid := ⟨zip (· + ·)⟩
instance : Sub Grid := ⟨zip (· - ·)⟩

def scale (g : Grid) : Grid := g.map (x * ·)

def transpose : Grid := build g.width g.height fun i j => g.get j i

def total : Float := xs.foldl (· + ·) 0

def blockSum : Float :=
 if xs.length < 8 then total xs
 else
  let even := xs.length - xs.length % 8
  let start := xs.take 8
  let sums := ((range (even / 8 - 1)).foldl (fun acc _ =>
   ((acc.1.zip (acc.2.take 8)).map fun (x, y) => x + y, acc.2.drop 8)) (start, (xs.take even).drop 8)).1
  let first := if let [a, b, c, d, e, f, g, h] := sums then a + b + (c + d) + (e + f + (g + h)) else total sums
  (xs.drop even).foldl (· + ·) first

def halvedSum : Nat -> List Float -> Float
 | 0, xs => total xs
 | depth + 1, xs =>
  if xs.length ≤ 128 then blockSum xs
  else
   let half := xs.length / 2
   let half := half - half % 8
   halvedSum depth (xs.take half) + halvedSum depth (xs.drop half)

def sumOf : Float := halvedSum 64 xs

def most : Float := xs.foldl (fun a b => if a < b || b.isNaN then b else a) (xs.headD 0)

def ofSumOne : List Float :=
 let s := total xs
 xs.map (· / s)

/-- The places of the numbers, that of the least one first. -/
def ascending : List Nat := (xs.zipIdx.mergeSort (·.1 ≤ ·.1)).map (·.2)

def dot (xs ys : List Float) : Float := (xs.zip ys).foldl (fun s (x, y) => s + x * y) 0

def mul (g h : Grid) : Grid :=
 let columns := h.transpose.cells
 let product r c := (range g.width).foldl (fun s k => s + r.getD k 0 * c.getD k 0) 0
 ⟨g.height, h.width, g.cells.map fun r => columns.map (product r)⟩

instance : Mul Grid := ⟨mul⟩

def apply : List Float := g.rows.map (dot · xs)

def rowSums : List Float := g.rows.map sumOf
def sum : Float := sumOf g.rows.flatten
def mainDiagonal : List Float := (range (min g.height g.width)).map fun i => g.get i i
def trace : Float := total g.mainDiagonal

def isFinite (g : Grid) : Bool := g.cells.all (·.all Float.isFinite)

def norm : Float := ((range g.width).map fun j => total ((g.column j).map abs)).foldl max 0

def pivoted : Grid :=
 let best := (range g.height).foldl (fun b k => if i ≤ k && (g.get b j).abs < (g.get k j).abs then k else b) i
 { g with cells := g.cells.swapIfInBounds i best }

def eliminate (i : Nat) : Grid :=
 let pivot := g.cells.getD i #[]
 let p := pivot.getD i 0
 { g with cells := g.cells.mapIdx fun k r =>
   if i < k then
    let f := r.getD i 0 / p
    r.mapIdx fun j x => if j < i then x else if j = i then 0 else x - f * pivot.getD j 0
   else r }

def backward : Grid :=
 let solved := (range n).reverse.foldl (fun cells i =>
  let r := g.cells.getD i #[]
  let p := r.getD i 0
  let solution := (Array.range (g.width - n)).map fun c =>
   let known := (range (n - i - 1)).foldl (fun s k =>
    s - r.getD (i + 1 + k) 0 * (cells.getD (i + 1 + k) #[]).getD c 0) (r.getD (n + c) 0)
   known / p
  cells.setIfInBounds i solution) (.replicate n #[])
 ⟨n, g.width - n, solved⟩

def solve? (g h : Grid) : Option Grid := do
 let n := g.height
 let both := ⟨n, n + h.width, g.cells.mapIdx fun i r => r ++ h.cells.getD i #[]⟩
 let triangle <- (range n).foldlM (fun t i =>
  let t := t.pivoted i i
  if t.get i i == 0 then none else t.eliminate i) both
 return backward triangle n

def inverse? : Option Grid := g.solve? (unit g.height)

def exponential : Grid :=
 let size := g.norm
 let steps := if size ≤ 1 then 0 else size.log2.ceil.toUInt64.toNat + 1
 let a := g.scale (1 / 2.0 ^ ofNat steps)
 let n := g.height
 let coefficients := (range 9).foldl (fun cs k =>
  let c := cs.2 * ofNat (8 - k) / (ofNat (16 - k) * ofNat (k + 1))
  (cs.1 ++ [cs.2], c)) ([], 1.0)
 let powers := (range 8).foldl (fun ps _ => ps ++ [(ps.getLastD (unit n)) * a]) [unit n]
 let terms := coefficients.1.zip powers
 let above := terms.foldl (fun s (c, p) => s + p.scale c) (zero n n)
 let below := terms.zipIdx.foldl (fun s ((c, p), k) => if k % 2 = 0 then s + p.scale c else s - p.scale c) (zero n n)
 let e := (below.solve? above).getD (unit n)
 (range steps).foldl (fun e _ => e * e) e

/-! # Eigenvalues

Those of symmetric grids come from rotations, those of others from double steps on a grid that is zero below its
first lower diagonal.
-/

variable (g : Grid) (h : Grid)

/-! ## Symmetric grids -/

def rotate (gv : Grid × Grid) (p q : Nat) : Grid × Grid :=
 let (g, v) := gv
 let x := g.get p q
 if x == 0 then (g, v)
 else
  let theta := (g.get q q - g.get p p) / (2 * x)
  let t := (if theta < 0 then -1 else 1) / (theta.abs + (theta * theta + 1).sqrt)
  let c := 1 / (t * t + 1).sqrt
  let s := t * c
  let columns h :=
   { h with cells := h.cells.map fun r =>
     let a := r.getD p 0
     let b := r.getD q 0
     (r.setIfInBounds p (c * a - s * b)).setIfInBounds q (s * a + c * b) }
  let upper := g.cells.getD p #[]
  let lower := g.cells.getD q #[]
  let first := upper.mapIdx fun j a => c * a - s * lower.getD j 0
  let second := lower.mapIdx (s * upper.getD · 0 + c * ·)
  let turned := { g with cells := (g.cells.setIfInBounds p first).setIfInBounds q second }
  (((columns turned).set p q 0).set q p 0, columns v)

def symmetricEigen : List Float × Grid :=
 let n := g.height
 let pairs := (range n).flatMap fun p => (range (n - p - 1)).map (p, p + 1 + ·)
 let outer h := total (pairs.map fun (p, q) => h.get p q * h.get p q)
 let (d, v) := (range 60).foldl (fun acc _ =>
  if outer acc.1 == 0 then acc else pairs.foldl (fun acc (p, q) => rotate acc p q) acc) (g, unit n)
 (d.mainDiagonal, v)

/-! ## Other grids -/

def exchange (i j : Nat) : Grid := { g with cells := (g.cells.swapIfInBounds i j).map (·.swapIfInBounds i j) }

def isBusy (line : Nat -> Float) (i lo hi : Nat) : Bool := (range (hi - lo)).any fun k => lo + k != i && line (lo + k) != 0

def pushDown : Nat -> Grid -> Nat -> Grid × Nat
 | 0, g, hi => (g, hi)
 | n + 1, g, hi =>
  let (h, top) := (range hi).reverse.foldl (fun acc i =>
   if acc.2 = 0 || isBusy (acc.1.get i) i 0 acc.2 then acc
   else (acc.1.exchange i (acc.2 - 1), acc.2 - 1)) (g, hi)
  if top = hi then (h, hi) else pushDown n h top

def pushLeft : Nat -> Grid -> Nat -> Nat -> Grid × Nat
 | 0, g, lo, _ => (g, lo)
 | n + 1, g, lo, hi =>
  let (h, bottom) := (range (hi - lo)).foldl (fun acc k =>
   if isBusy (acc.1.get · (lo + k)) (lo + k) acc.2 hi then acc
   else (acc.1.exchange (lo + k) acc.2, acc.2 + 1)) (g, lo)
  if bottom = lo then (h, lo) else pushLeft n h bottom hi

def withSign (a b : Float) : Float := if b < 0 || 1 / b < 0 then -a.abs else a.abs

def reflector (ys : List Float) : Float × Float × List Float :=
 let size := (dot ys ys).sqrt
 if size == 0 then (0, x, ys.map fun _ => 0)
 else
  let beta := -withSign (x * x + size * size).sqrt x
  ((beta - x) / beta, beta, ys.map (· / (x - beta)))

def hessenberg (lo hi : Nat) : Grid :=
 (range (hi - lo - 2)).foldl (fun h s =>
  let k := lo + s
  let col := (range (hi - k - 1)).map fun t => h.get (k + 1 + t) k
  let (tau, beta, ys) := reflector (col.headD 0) (col.drop 1)
  let v := (1 :: ys).toArray
  let cells := h.cells.mapIdx fun i r =>
   if hi ≤ i then r
   else
    let f := tau * (range v.size).foldl (fun s t => s + r.getD (k + 1 + t) 0 * v.getD t 0) 0
    r.mapIdx fun j x => if k < j && j < hi then x - f * v.getD (j - k - 1) 0 else x
  let byColumns := { h with cells }
  let sums := (Array.range h.width).map fun j =>
   tau * (range v.size).foldl (fun s t => s + byColumns.get (k + 1 + t) j * v.getD t 0) 0
  { h with cells := byColumns.cells.mapIdx fun i r =>
    if k < i && i < hi then
     r.mapIdx fun j x =>
      if j < k then x
      else if j = k then if i = k + 1 then beta else 0
      else x - v.getD (i - k - 1) 0 * sums.getD j 0
    else r }) g

structure Root where
 (re im : Float)

def precision : Float := 2.220446049250313e-16

def tiny : Float := 2.2250738585072014e-308

def pairRoots (a b c d : Float) : Root × Root :=
 if c == 0 then (⟨a, 0⟩, ⟨d, 0⟩)
 else if b == 0 then (⟨d, 0⟩, ⟨a, 0⟩)
 else if a - d == 0 && (b < 0) != (c < 0) then
  let w := b.abs.sqrt * c.abs.sqrt
  (⟨a, w⟩, ⟨d, -w⟩)
 else
  let p := 0.5 * (a - d)
  let most := max b.abs c.abs
  let least := (if (b < 0) == (c < 0) then 1 else -1) * min b.abs c.abs
  let s := max p.abs most
  let z := p / s * p + most / s * least
  if z ≥ 4 * precision then
   let z := p + withSign (s.sqrt * z.sqrt) p
   (⟨d + z, 0⟩, ⟨d - most / z * least, 0⟩)
  else
   let sigma := b + c
   let tau := (sigma * sigma + (a - d) * (a - d)).sqrt
   let cs := (0.5 * (1 + sigma.abs / tau)).sqrt
   let sn := -(p / (tau * cs)) * withSign 1 sigma
   let aa := a * cs + b * sn
   let bb := -a * sn + b * cs
   let cc := c * cs + d * sn
   let dd := -c * sn + d * cs
   let b := bb * cs + dd * sn
   let c := -aa * sn + cc * cs
   let mid := 0.5 * (aa * cs + cc * sn + (-bb * sn + dd * cs))
   if c == 0 || b == 0 then (⟨mid, 0⟩, ⟨mid, 0⟩)
   else if (b < 0) == (c < 0) then
    let p := withSign (b.abs.sqrt * c.abs.sqrt) c
    (⟨mid + p, 0⟩, ⟨mid - p, 0⟩)
   else
    let w := b.abs.sqrt * c.abs.sqrt
    (⟨mid, w⟩, ⟨mid, -w⟩)

def splitRow (lo hi l i : Nat) (small : Float) : Nat :=
 let splits k :=
  let sub := (h.get k (k - 1)).abs
  if sub ≤ small then true
  else
   let near := (h.get (k - 1) (k - 1)).abs + (h.get k k).abs
   let near := if near == 0 then
    (if lo + 2 ≤ k then (h.get (k - 1) (k - 2)).abs else 0) + if k + 1 < hi then (h.get (k + 1) k).abs else 0
    else near
   if sub ≤ precision * near then
    let sup := (h.get (k - 1) k).abs
    let diff := (h.get (k - 1) (k - 1) - h.get k k).abs
    let ab := max sub sup
    let ba := min sub sup
    let aa := max (h.get k k).abs diff
    let bb := min (h.get k k).abs diff
    let s := aa + ab
    ba * (ab / s) ≤ max small (precision * (bb * (aa / s)))
   else false
 ((range (i - l)).map (i - ·)).find? splits |>.getD l

def shifts (l i count : Nat) : Root × Root :=
 let (h11, h21, h12, h22) :=
  if count % 20 = 0 then
   let s := (h.get i (i - 1)).abs + (h.get (i - 1) (i - 2)).abs
   let x := 0.75 * s + h.get i i
   (x, s, -0.4375 * s, x)
  else if count % 10 = 0 then
   let s := (h.get (l + 1) l).abs + (h.get (l + 2) (l + 1)).abs
   let x := 0.75 * s + h.get l l
   (x, s, -0.4375 * s, x)
  else (h.get (i - 1) (i - 1), h.get i (i - 1), h.get (i - 1) i, h.get i i)
 let s := h11.abs + h12.abs + h21.abs + h22.abs
 if s == 0 then (⟨0, 0⟩, ⟨0, 0⟩)
 else
  let (h11, h21, h12, h22) := (h11 / s, h21 / s, h12 / s, h22 / s)
  let mid := (h11 + h22) / 2
  let det := (h11 - mid) * (h22 - mid) - h12 * h21
  let disc := det.abs.sqrt
  if det ≥ 0 then (⟨mid * s, disc * s⟩, ⟨mid * s, -(disc * s)⟩)
  else
   let a := mid + disc
   let b := mid - disc
   let r := if (a - h22).abs ≤ (b - h22).abs then a * s else b * s
   (⟨r, 0⟩, ⟨r, 0⟩)

def start (l i : Nat) (r : Root × Root) : Nat × List Float :=
 let direction m : List Float :=
  let x := h.get m m
  let s := (x - r.2.re).abs + r.2.im.abs + (h.get (m + 1) m).abs
  let sub := h.get (m + 1) m / s
  let v1 := sub * h.get m (m + 1) + (x - r.1.re) * ((x - r.2.re) / s) - r.1.im * (r.2.im / s)
  let v2 := sub * (x + h.get (m + 1) (m + 1) - r.1.re - r.2.re)
  let v3 := sub * h.get (m + 2) (m + 1)
  let s := v1.abs + v2.abs + v3.abs
  [v1 / s, v2 / s, v3 / s]
 let fits m : Bool :=
  if let [v1, v2, v3] := direction m then
   (h.get m (m - 1)).abs * (v2.abs + v3.abs) ≤
    precision * v1.abs * ((h.get (m - 1) (m - 1)).abs + (h.get m m).abs + (h.get (m + 1) (m + 1)).abs)
  else false
 let m := ((range (i - 2 - l)).map (i - 2 - ·)).find? fits |>.getD l
 (m, direction m)

def doubleStep (l i m : Nat) (direction : List Float) : Grid :=
 (range (i - m)).foldl (fun h t =>
  let k := m + t
  let count := min 3 (i - k + 1)
  let v := if m < k then (range count).map fun r => h.get (k + r) (k - 1) else direction
  let (tau, beta, ys) := reflector (v.headD 0) (v.drop 1)
  let h :=
   if m < k then (range (count - 1)).foldl (fun h r => h.set (k + 1 + r) (k - 1) 0) (h.set k (k - 1) beta)
   else if l < m then h.set k (k - 1) (h.get k (k - 1) * (1 - tau))
   else h
  let w := (1 :: ys).toArray
  let sums := (Array.range h.width).map fun j => (range w.size).foldl (fun s r => s + w.getD r 0 * h.get (k + r) j) 0
  let turned := h.cells.mapIdx fun r row =>
   if k ≤ r && r < k + w.size then
    row.mapIdx fun j x => if k ≤ j && j ≤ i then x - sums.getD j 0 * tau * w.getD (r - k) 0 else x
   else row
  let cells := turned.mapIdx fun r row =>
   if l ≤ r && r ≤ min (k + 3) i then
    let s := (range w.size).foldl (fun s c => s + w.getD c 0 * row.getD (k + c) 0) 0
    row.mapIdx fun j x => if k ≤ j && j < k + w.size then x - s * tau * w.getD (j - k) 0 else x
   else row
  { h with cells }) h

def deflate : Nat -> Grid -> Nat -> Nat -> Nat -> Nat -> Array Root -> Option (Array Root)
 | 0, _, _, _, i, _, roots => if i = 0 then some roots else none
 | fuel + 1, h, lo, hi, i, count, roots =>
  if i ≤ lo then some roots
  else
   let last := i - 1
   let l := splitRow h lo hi lo last (tiny * (ofNat (hi - lo) / precision))
   let h := if lo < l then h.set l (l - 1) 0 else h
   if l = last then deflate fuel h lo hi l 0 (roots.setIfInBounds last ⟨h.get last last, 0⟩)
   else if l + 1 = last then
    let (a, b) := pairRoots (h.get l l) (h.get l last) (h.get last l) (h.get last last)
    deflate fuel h lo hi l 0 ((roots.setIfInBounds l a).setIfInBounds last b)
   else
    let (m, direction) := start h l last (shifts h l last (count + 1))
    deflate fuel (doubleStep h l last m direction) lo hi i (count + 1) roots

def eigenvalues? : Option (List Root) := do
 let n := g.height
 let (g, hi) := pushDown (n + 1) g n
 let (g, lo) := pushLeft (n + 1) g 0 hi
 let roots := (Array.range n).map fun i => (⟨g.get i i, 0⟩ : Root)
 return (<- deflate (40 * (n + 10)) (hessenberg g lo hi) lo hi hi 0 roots).toList

def eigenvector (value : Float) : List Float :=
 let n := g.height
 let size := max g.norm 1
 let normed xs : List Float :=
  let s := (dot xs xs).sqrt
  if s == 0 then xs else xs.map (· / s)
 let near := value + size * 1.0e-10
 let shifted := g - (unit n).scale near
 (range 6).foldl (fun xs _ =>
  if let some y := shifted.solve? (ofRows 1 (xs.map fun x => [x])) then normed (y.column 0)
  else xs) (normed (replicate n 1))

end Grid

end DexLens.Network
