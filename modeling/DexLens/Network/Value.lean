import DexLens.Decimal.Basic
import DexLens.Fault

/-! # Values

Whole numbers, truth values and floating-point numbers that denote the same number are the same value.
-/

namespace DexLens.Network

export Decimal (ofInt truncate?)
export Res (opt)

def truncated (x : Float) : Res Int := opt (if x.isNaN then .badVal else .overflow) (truncate? x)

inductive Value where
 | null
 | bool (b : Bool)
 | int (i : Int)
 | float (x : Float)
 | complex (re im : Float)
 | text (s : String)
 | bytes (b : Bytes)
 | tuple (xs : List Value)
 | list (xs : List Value)
 | set (xs : List Value)
 | stream (xs : List Value)
 | dict (xs : List (Value × Value))
 | array (xs : List Value)
 /-- The format, the entries as they are stored if the format keeps their order, and the rows. -/
 | sparse (format : String) (entries rows : List Value)
 | graph (ref : Nat)
 | function (name : String)
 | kind (name : String)
 | object (name : String) (parts : List (String × Value))
 | input (blob : String) (binary : Bool)
 | output

abbrev Vals := List Value

abbrev Parts := List (String × Value)

abbrev Pairs := List (Value × Value)

inductive Num where
 | int (i : Int)
 | float (x : Float)

namespace Num

variable (a b : Num)

def toFloat : Num -> Float
 | int i => ofInt i
 | float x => x

def value : Num -> Value
 | int i => .int i
 | float x => .float x

instance (n : Nat) : OfNat Num n := ⟨int n⟩
instance : Coe Int Num := ⟨int⟩
instance : Coe Float Num := ⟨float⟩

def combine (f : Int -> Int -> Int) (g : Float -> Float -> Float) : Num -> Num -> Num
 | int a, int b => int (f a b)
 | a, b => float (g a.toFloat b.toFloat)

instance : Add Num := ⟨combine (· + ·) (· + ·)⟩
instance : Sub Num := ⟨combine (· - ·) (· - ·)⟩
instance : Mul Num := ⟨combine (· * ·) (· * ·)⟩

instance : Neg Num := ⟨fun
 | int i => int (-i)
 | float x => float (-x)⟩

def compareMixed (i : Int) (x : Float) : Option Ordering :=
 if x.isNaN then none
 else if x.isInf then some (if x > 0 then .lt else .gt)
 else (Decimal.fraction? x).elim none fun (n, d) => compare (i * d) n

def compare? : Num -> Num -> Option Ordering
 | int a, int b => compare a b
 | float a, float b => if a < b then some .lt else if a > b then some .gt else if a == b then some .eq else none
 | int a, float b => compareMixed a b
 | float a, int b => (compareMixed b a).map .swap

def lt : Bool := compare? a b == some .lt
def le : Bool := compare? a b == some .lt || compare? a b == some .eq
instance : BEq Num := ⟨(compare? · · == some .eq)⟩

def isZero (a : Num) : Bool := a == 0

def div : Res Num := if b.isZero then .error .byZero else .ok (float (a.toFloat / b.toFloat))

def sum (xs : List Num) : Num := xs.foldl (· + ·) (int 0)

def min : Num := if b.lt a then b else a
def max : Num := if a.lt b then b else a

end Num

namespace Value

variable (xs : Vals) (v : Value)

def num? : Value -> Option Num
 | bool b => some (.int (if b then 1 else 0))
 | int i => some (.int i)
 | float x => some (.float x)
 | _ => none

def num : Res Num := opt .badKind v.num?

def int? : Value -> Option Int
 | int i => some i
 | bool b => some (if b then 1 else 0)
 | _ => none

def asInt : Res Int := opt .badKind v.int?

def couple (p : Value × Value) : Value := tuple [p.1, p.2]

def sumOf : Res Num := return .sum (<- xs.mapM num)

mutual

def same : Value -> Value -> Bool
 | null, null => true
 | text a, text b | int a, int b | bytes a, bytes b => a == b
 | complex a b, complex c d => a == c && b == d
 | tuple a, tuple b | list a, list b | array a, array b => sameList a b
 | set a, set b => a.length == b.length && sameSet a b
 | dict a, dict b => a.length == b.length && sameDict a b
 | graph a, graph b | function a, function b | kind a, kind b => a == b
 | a, b =>
  if let (some x, some y) := (num? a, num? b) then x == y else false

def sameList : Vals -> Vals -> Bool
 | [], [] => true
 | a :: as, b :: bs => same a b && sameList as bs
 | _, _ => false

def sameSet : Vals -> Vals -> Bool
 | [], _ => true
 | a :: as, bs => bs.any (same a) && sameSet as bs

def sameDict : Pairs -> Pairs -> Bool
 | [], _ => true
 | (k, v) :: as, bs => bs.any (fun p => same k p.1 && same v p.2) && sameDict as bs

end

instance : BEq Value := ⟨same⟩

instance : Coe String Value := ⟨text⟩
instance : Coe Int Value := ⟨int⟩
instance : Coe Bool Value := ⟨bool⟩
instance : Coe Float Value := ⟨float⟩
instance : Coe Num Value := ⟨Num.value⟩
instance : Coe (List Value) Value := ⟨list⟩
instance : Coe Pairs Value := ⟨dict⟩
instance (n : Nat) : OfNat Value n := ⟨int n⟩

def nat (n : Nat) : Value := int n

instance : Coe Nat Value := ⟨nat⟩

def isNull : Value -> Bool
 | null => true
 | _ => false

mutual

def hashable : Value -> Bool
 | tuple xs => hashableAll xs
 | list _ | set _ | dict _ | array _ | sparse _ _ _ => false
 | _ => true

def hashableAll : Vals -> Bool
 | [] => true
 | x :: xs => hashable x && hashableAll xs

end

def key : Res Value := if v.hashable then .ok v else .error .badKind

def truth : Value -> Bool
 | null => false
 | bool b => b
 | int i => i != 0
 | float x => x != 0
 | complex a b => a != 0 || b != 0
 | text s => s != ""
 | bytes b => !b.isEmpty
 | tuple xs | list xs | set xs | dict xs => !xs.isEmpty
 | _ => true

mutual

def quoted : Value -> String
 | null => "None"
 | bool b => if b then "True" else "False"
 | int i => toString i
 | float x => Decimal.shortestText x
 | complex a b => s!"({Decimal.shortestText a}+{Decimal.shortestText b}j)"
 | text s => Text.quoted s
 | bytes b => "b" ++ Text.quotedBytes b.toText
 | tuple [x] => s!"({quoted x},)"
 | tuple xs => "(" ++ ", ".intercalate (quotedAll xs) ++ ")"
 | list xs => "[" ++ ", ".intercalate (quotedAll xs) ++ "]"
 | set [] => "set()"
 | set xs => "\x7b" ++ ", ".intercalate (quotedAll xs) ++ "\x7d"
 | dict xs => "\x7b" ++ ", ".intercalate (quotedPairs xs) ++ "\x7d"
 | array xs => "array([" ++ ", ".intercalate (quotedAll xs) ++ "])"
 | stream _ => "<iterator>"
 | sparse _ _ _ => "<matrix>"
 | graph _ => ""
 | function n => s!"<function {n}>"
 | kind n => s!"<class {n}>"
 | object n _ => s!"<{n} object>"
 | input _ _ | output => "<file>"

def quotedAll : Vals -> List String
 | [] => []
 | x :: xs => quoted x :: quotedAll xs

def quotedPairs : Pairs -> List String
 | [] => []
 | (k, x) :: xs => s!"{quoted k}: {quoted x}" :: quotedPairs xs

end

def shown : Value -> String
 | text s => s
 | v => quoted v

mutual

def less : Value -> Value -> Res Bool
 | text a, text b => .ok (a < b)
 | bytes a, bytes b => .ok (a.toText < b.toText)
 | tuple a, tuple b | list a, list b => lessList a b
 | set a, set b => .ok (a.length < b.length && sameSet a b)
 | a, b => do
  let (some x, some y) := (num? a, num? b) | .error .badKind
  .ok (x.lt y)

def lessList : Vals -> Vals -> Res Bool
 | _, [] => .ok false
 | [], _ :: _ => .ok true
 | a :: as, b :: bs => if same a b then lessList as bs else less a b

end

def insertBy {α : Type} (less : α -> α -> Res Bool) (x : α) : List α -> Res (List α)
 | [] => .ok [x]
 | y :: ys => do if <- less x y then return x :: y :: ys else return y :: (<- insertBy less x ys)

def sortBy {α : Type} (less : α -> α -> Res Bool) (xs : List α) : Res (List α) :=
 xs.foldlM (fun acc x => insertBy less x acc) []

def sorted : Res Vals := sortBy less xs

def extreme (better : Value -> Value -> Res Bool) : Res Value := do
 let x :: xs := xs | .error .badVal
 xs.foldlM (fun best y => return if <- better y best then y else best) x

def least : Res Value := extreme xs less

def greatest : Res Value := extreme xs fun y best => less best y

def items? : Value -> Option Vals
 | tuple xs | list xs | set xs | stream xs | array xs => some xs
 | dict xs => some (xs.map (·.1))
 | text s => some (s.toList.map (text ·.toString))
 | bytes b => some (b.map (nat ·.toNat))
 | input s binary =>
  let lines := (splitLines s.toList)
  some (lines.map fun l => if binary then bytes (String.ofList l).toUTF8.toList else text (.ofList l))
 | object "UnionFind" (("parents", dict xs) :: _) => some (xs.map (·.1))
 | _ => none
where
 splitLines (cs : List Char) : List (List Char) :=
  let (lines, last) := cs.foldl (fun acc c =>
   if c = '\n' then (acc.1 ++ [acc.2 ++ [c]], []) else (acc.1, acc.2 ++ [c])) ([], [])
  if last.isEmpty then lines else lines ++ [last]

def items : Res Vals := opt .badKind v.items?

def size? : Value -> Option Nat
 | tuple xs | list xs | set xs | array xs | dict xs => some xs.length
 | text s => some s.length
 | bytes b => some b.length
 | _ => none

def sum (a b : Value) : Res Value :=
 match a, b with
 | text x, text y => .ok (text (x ++ y))
 | list x, list y => .ok (list (x ++ y))
 | tuple x, tuple y => .ok (tuple (x ++ y))
 | a, b => return ((<- a.num) + (<- b.num)).value

end Value

namespace Parts

variable (ps : Parts) (name : String)

def part : Value := (ps.lookup name).getD .null

def put (v : Value) : Parts := (name, v) :: ps.filter (·.1 != name)

end Parts

abbrev Table (α : Type) := List (Value × α)

namespace Table

variable {α : Type} (t : Table α) (k : Value) (dflt : α)

def get? : Option α := t.lookup k

def getD : α := (t.get? k).getD dflt

def has : Bool := t.any (·.1 == k)

def get : Res α := opt .noKey (t.lookup k)

def change (f : α -> α) : Table α :=
 if t.has k then t.map fun p => if p.1 == k then (p.1, f p.2) else p else t ++ [(k, f dflt)]

def put (a : α) : Table α := t.change k a fun _ => a

def erase : Table α := t.filter (!·.1 == k)

def keys : Vals := t.map (·.1)
def values : List α := t.map (·.2)

def merge (t u : Table α) : Table α := u.foldl (fun t (k, a) => t.put k a) t

def ofList (xs : List (Value × α)) : Table α := merge [] xs

end Table

def including (xs : Vals) (x : Value) : Vals := if xs.contains x then xs else xs ++ [x]

def uniq (xs : Vals) : Vals := xs.foldl including []

abbrev Items := Table Value

def Value.asDict : Value -> Res Items
 | dict xs => .ok xs
 | _ => .error .noPart

end DexLens.Network
