import DexLens.Decimal.Reading
import DexLens.Network.Call

/-! # When attributes agree

Some attributes are looked up and compared as categories, as numbers up to a tolerance, or by functions.
-/

namespace DexLens.Network

open Value

inductive Comparison where
 | categorical
 | numerical (relative absolute : Num)
 | generic (function : Value)

structure Likeness where
 /-- Are there several sets of attributes, one for each of the edges between two nodes? -/
 several : Bool
 (attr dflt : Value)
 comparison : Comparison

namespace Likeness

variable (call : Value -> Vals -> Res Value) (l : Likeness) (parts : Parts) (a b : Value) (relative absolute : Num) (xs ys : Vals)

def arrangements {α : Type} : Nat -> List α -> List (List α)
 | 0, _ => [[]]
 | n + 1, xs => (List.range xs.length).flatMap fun i =>
  xs[i]?.elim [] fun x => (arrangements n (xs.eraseIdx i)).map (x :: ·)

def look (data attr dflt : Value) : Res Value := do
 let .dict t := data | .error .noPart
 return (Table.getD t (<- attr.key) dflt)

def close (a b : Value) : Res Bool := do
 let x <- a.num
 let y <- b.num
 let size (n : Num) := if n.lt 0 then -n else n
 return (size (x - y)).le (absolute + relative * size y)

def allBy (f : α -> Res Bool) (xs : List α) : Res Bool :=
 xs.foldlM (fun ok x => if !ok then return false else f x) true

def allClose : Res Bool :=
 allBy (fun (x, y) => close relative absolute x y) (xs.zip ys)

def sameValues : Res Bool := do
 let xs <- xs.mapM key
 let ys <- ys.mapM key
 return sameSet xs ys && sameSet ys xs

def named : Res Pairs := return (<- l.attr.items).zip (<- l.dflt.items)

def single : Bool :=
 if let .text _ := l.attr then true else false

def values (data : Value) : Res Vals := do (<- l.named).mapM fun (k, d) => look data k d

def agree : Res Value := do
 let own data := look data l.attr l.dflt
 match l.comparison with
 | .categorical =>
  if l.single then return .bool ((<- own a) == (<- own b))
  return .bool (<- sameValues (<- l.values a) (<- l.values b))
 | .numerical relative absolute =>
  if l.single then return .bool (<- close relative absolute (<- own a) (<- own b))
  return .bool (<- allClose relative absolute (<- l.values a) (<- l.values b))
 | .generic f =>
  if l.single then call f [<- own a, <- own b]
  else
   let rows := (<- l.named).zip (<- f.items)
   return .bool (<- allBy (fun ((k, d), g) => return (<- call g [<- look a k d, <- look b k d]).truth) rows)

def agreeAll : Res Value := do
 let sets bundle : Res Vals := do
  let .dict t := bundle | .error .noPart
  .ok (t.map (·.2))
 let values bundle : Res Vals := do
  (<- sets bundle).mapM fun data => if l.single then look data l.attr l.dflt else return .tuple (<- l.values data)
 let xs <- values a
 let ys <- values b
 match l.comparison with
 | .categorical => return <- sameValues xs ys
 | .numerical relative absolute =>
  let xs <- sorted xs
  let ys <- sorted ys
  if l.single then return <- allClose relative absolute xs ys
  return <- allBy (fun (x, y) => do allClose relative absolute (<- x.items) (<- y.items)) (xs.zip ys)
 | .generic f =>
  let orders := arrangements ys.length ys
  if l.single then
   let found <- orders.foldlM (fun found order => do
    if found then return true
    allBy (fun (x, y) => return (<- call f [x, y]).truth) (xs.zip order)) false
   return found
  else
   let fs <- f.items
   return <- allBy (fun order =>
    allBy (fun ((x, y), g) => return (<- call g [x, y]).truth) ((xs.zip order).zip fs)) orders

def value : Value :=
 let comparison := match l.comparison with
  | .categorical => []
  | .numerical r a => [("rtol", r), ("atol", a)]
  | .generic f => [("op", f)]
 .object "match" ([("several", .bool l.several), ("attr", l.attr), ("default", l.dflt)] ++ comparison)

def ofParts : Likeness :=
 let part n := (parts.lookup n).getD .null
 let num n := (part n).num?.getD 0
 { several := (part "several").truth, attr := part "attr", dflt := part "default"
   comparison :=
    if (parts.lookup "op").isSome then .generic (part "op")
    else if (parts.lookup "rtol").isSome then .numerical (num "rtol") (num "atol")
    else .categorical }

def apply : Res Value:=
 let l := ofParts parts
 if l.several then l.agreeAll call a b else l.agree call a b

end Likeness

/-! # Functions that scripts can pass to commands -/

namespace Value

def toInt : Value -> Res Value
 | int i => .ok (int i)
 | bool b => .ok (int (if b then 1 else 0))
 | float x => int <$> truncated x
 | text s => int <$> opt .badVal (Text.int? s)
 | bytes b => int <$> opt .badVal (Text.int? b.toText)
 | _ => .error .badKind

def toFloat : Value -> Res Value
 | int i =>
  let x := ofInt i
  if x.isInf then .error .overflow else .ok (float x)
 | bool b => .ok (float (if b then 1 else 0))
 | float x => .ok (float x)
 | text s => float <$> opt .badVal (Decimal.parse? s)
 | bytes b => float <$> opt .badVal (Decimal.parse? b.toText)
 | _ => .error .badKind

def asFloat (v : Value) : Res Float := do
 let float x <- v.toFloat | .error .badKind
 return x

end Value

namespace Lab

variable (lab : Lab) (f : Value) (args : Vals)

def choices : Vals -> Res Vals
 | [] => .error .badKind
 | [x] => opt .badKind (lab.items? x)
 | xs => .ok xs

def applyNamed : Res Value :=
 match f, args with
 | .function "str", [] => .ok ""
 | .function "str", [x] => do
  let some g := lab.graph? x | .ok (.text x.shown)
  let .text s := g.name | .error .badKind
  .ok (.text s)
 | .function "int", [] => .ok 0
 | .function "int", [x] => x.toInt
 | .function "float", [] => .ok (.float 0)
 | .function "float", [x] => x.toFloat
 | .function "len", [x] => do
  let some g := lab.graph? x | (opt .badKind x.size?).map .nat
  .ok (.nat g.order)
 | .function "min", xs => do least (<- lab.choices xs)
 | .function "max", xs => do greatest (<- lab.choices xs)
 | .function "eq", [a, b] => .ok (.bool (a == b))
 | .function "one", _ => .ok 1
 | .function "sq", [x] => do
  let n <- x.num
  return (n * n).value
 | .function "wt", [g, u, v] => do
  let g <- opt .noPart (lab.graph? g)
  let near := Table.keys (<- g.row u)
  return .nat (2 * (near.filter (Table.keys (<- g.row v)).contains).length)
 | _, _ => .error .badKind

def apply : Res Value := do
 let (.object "match" parts, [a, b]) := (f, args) | lab.applyNamed f args
 Likeness.apply lab.applyNamed parts a b

def isCallable : Value -> Bool
 | .function _ | .kind _ | .object "match" _ => true
 | _ => false

end Lab

def Work.function (f : Value) : Work (Value -> Res Value) := do
 let lab <- get
 return fun x => lab.apply f [x]

end DexLens.Network
