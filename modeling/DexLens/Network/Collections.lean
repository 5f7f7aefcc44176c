import DexLens.Network.Format.Gexf

/-! # Collections -/

namespace DexLens.Network.Collections

def isText : Value -> Bool
 | .text _ => true
 | _ => false

def isIterable (lab : Lab) (v : Value) : Bool :=
 (lab.items? v).isSome || match v with
  | .output | .kind _ => true
  | _ => false

def refilled (v : Value) (xs : Vals) : Res Value :=
 match v with
 | .list _ => .ok (.list xs)
 | .tuple _ => .ok (.tuple xs)
 | .set _ => do
  xs.forM fun x => do discard x.key
  return .set (uniq xs)
 | .dict _ => return .dict (Table.ofList (<- (Value.list xs).entries))
 | _ => .error .badKind

mutual

def flattenInto (acc : Vals) : Value -> Res Vals
 | .list xs => do
  let ys <- flattenAll acc xs
  discard (refilled (.list []) ys)
  return ys
 | .tuple xs => flattenAll acc xs
 | .set xs => do
  let ys <- flattenAll acc xs
  discard (refilled (.set []) ys)
  return ys
 | .dict xs => do
  let ys <- flattenKeys acc xs
  discard (refilled (.dict []) ys)
  return ys
 | .stream _ | .kind _ => .error .badKind
 | v => .ok (acc ++ [v])

def flattenAll (acc : Vals) : Vals -> Res Vals
 | [] => .ok acc
 | x :: xs => do flattenAll (<- flattenInto acc x) xs

def flattenKeys (acc : Vals) : Pairs -> Res Vals
 | [] => .ok acc
 | (k, _) :: xs => do flattenKeys (<- flattenInto acc k) xs

end

def flatten (v : Value) : Res Value :=
 match v with
 | .list xs | .tuple xs | .set xs => do refilled v (<- flattenAll [] xs)
 | .dict xs => do refilled v (<- flattenKeys [] xs)
 | .stream _ | .kind _ => .error .badKind
 | v => .ok v

def runningSums (xs : Vals) : Res Vals := do
 let (sums, _) <- xs.foldlM (fun (acc : Vals × Num) x => do
  let s := acc.2 + (<- x.num)
  return (acc.1 ++ [s.value], s)) ([], 0)
 return sums

/-! ## Sets that are joined -/

/-- Disjoint sets: the way from each member to the one that stands for its set, and the sizes. -/
structure Union where
 parents : Items := []
 weights : Items := []

namespace Union

variable (u : Union)

def way (u : Union) : Nat -> Value -> Vals × Value
 | 0, x => ([], x)
 | n + 1, x =>
  let p := u.parents.getD x x
  if p.same x then ([x], x)
  else
   let (path, root) := way u n p
   (x :: path, root)

def find (x : Value) : Res (Union × Value) := do
 discard x.key
 if u.parents.has x then
  let (path, root) := u.way (u.parents.length + 1) x
  return ({ u with parents := path.foldl (·.put · root) u.parents }, root)
 else return ({ parents := u.parents.put x x, weights := u.weights.put x 1 }, x)

def join (xs : Vals) : Res Union := do
 let (u, roots) <- xs.foldlM (fun acc x => do
  let (u, r) <- acc.1.find x
  return (u, acc.2 ++ [r])) (u, [])
 let weight (u : Union) r : Value := u.weights.getD r 0
 let .tuple [_, top] <- Value.greatest (roots.map fun r => .tuple [weight u r, r]) | return u
 roots.foldlM (fun u r => do
  if r.same top then return u
  let sum := (<- (weight u top).num) + (<- (weight u r).num)
  return { parents := u.parents.put r top, weights := u.weights.put top sum }) u

def value : Parts := [("parents", u.parents), ("weights", u.weights)]

end Union

def askUnion (parts : Parts) (method : String) (xs : Vals) : Work (Parts × Res Value):= do
 let table name : Items := if let some (.dict d) := parts.lookup name then d else []
 let u : Union := ⟨table "parents", table "weights"⟩
 match method, xs with
 | "union", xs =>
  match u.join xs with
  | .ok u => return (u.value, .ok .null)
  | .error f =>
   let found := xs.foldl (fun u x => if let .ok (u, _) := u.find x then u else u) u
   return (found.value, .error f)
 | "__getitem__", [x] =>
  let (u, r) <- u.find x
  return (u.value, .ok r)
 | "__iter__", [] => return (parts, .ok (.list u.parents.keys))
 | _, _ => throw .noPart

def cmds : List Cmd := [
 ⟨"utils.flatten", "obj result?", flatten⟩,
 ⟨"utils.is_list_of_ints", "intlist", fun a => do
  let .list xs := a 0 | return .bool false
  return .bool (xs.all fun x => match x with
  | .int _ | .bool _ => true
  | _ => false)⟩,
 ⟨"utils.make_str", "x", fun a => do (<- get).apply (.function "str") [a 0]⟩,
 ⟨"utils.is_string_like", "obj", isText⟩,
 ⟨"utils.iterable", "obj", fun a => return .bool (isIterable (<- get) (a 0))⟩,
 ⟨"utils.cumulative_sum", "numbers", runningSums⟩,
 ⟨"utils.UnionFind", "", fun _ => return .object "UnionFind" (Union.value {})⟩,
 ⟨"write_gpickle", "G path", Files.opening 1 fun a => do
  let v <- if let some g := (<- get).graph? (a 0) then keep g.copy else pure (a 0)
  match a 1 with
  | .text name => modify fun lab => { lab with stored := (name, v) :: lab.stored }
  | .output | .input _ true => pure ()
  | _ => throw .badKind⟩,
 ⟨"read_gpickle", "path", fun a => do
  let .text name := a 0 | throw .badKind
  discard (Files.blob name)
  let some v := (<- get).stored.lookup name | throw .badVal
  let some g := (<- get).graph? v | return v
  keep g.copy⟩]

end DexLens.Network.Collections
