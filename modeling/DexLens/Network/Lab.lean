import DexLens.Network.Graph.Edit

/-! # Random numbers

A linear congruential generator with a state of 64 bits, and the usual ways to draw from it.
-/

namespace DexLens.Network

abbrev Draw := ExceptT Fault (StateM Nat)

namespace Draw

variable {α : Type} (xs : List α) (a b : Int)

def seeded : Value -> Res Nat
 | .null => .ok 0
 | .int i => .ok (i % Int.pow 2 64).toNat
 | .bool b => .ok (if b then 1 else 0)
 | .float x => do return ((<- truncated x) % Int.pow 2 64).toNat
 | .text s => do return ((<- opt .badVal (Text.int? (Text.strip s))) % Int.pow 2 64).toNat
 | _ => .error .badKind

def step (s : Nat) : Nat := (s * 6364136223846793005 + 1442695040888963407) % .pow 2 64

def random : Draw Float := do
 let s := step (<- get)
 set s
 return .ofScientific (s / .pow 2 11) false 0 / 9007199254740992.0

def below (n : Int) : Draw Int := return (Decimal.floor? ((<- random) * ofInt n)).getD 0

def range : Draw Int := do
 if b ≤ a then throw .badVal
 return a + (<- below (b - a))

def inclusive : Draw Int := range a (b + 1)

def choice : Draw α := do opt .beyond xs[(<- below xs.length).toNat]?

def shuffle : Draw (List α) := do
 let swaps := (List.range (xs.length - 1)).reverse.map (· + 1)
 return (<- swaps.foldlM (fun a (i : Nat) => return a.swapIfInBounds i (<- below (i + 1)).toNat) xs.toArray).toList

def sample (k : Int) : Draw (List α) := do
 if k < 0 || xs.length < k then throw .badVal
 let n := xs.length
 let (out, _) <- (List.range k.toNat).foldlM (fun acc (i : Nat) => do
  let j := (<- below ((n : Int) - i)).toNat
  let (some x, some y) := (acc.2[j]?, acc.2[n - i - 1]?) | throw .beyond
  return (acc.1 ++ [x], acc.2.setIfInBounds j y)) ([], xs.toArray)
 return out

def uniform (a b : Float) : Draw Float := return a + (b - a) * (<- random)

def normal (mean deviation : Float) : Draw Float :=
 return mean + deviation * ((<- (List.range 12).foldlM (fun s _ => return s + (<- random)) 0) - 6)

def exponential (rate : Float) : Draw Float := do
 let x <- random
 if rate == 0 then throw .byZero
 return -.log (1 - x) / rate

def pareto (exponent : Float) : Draw Float := do
 let x <- random
 if exponent == 0 then throw .byZero
 return 1 / .pow (1 - x) (1 / exponent)

end Draw

export Draw (random choice)

end DexLens.Network

/-! # A laboratory of graphs

The graphs that a script works on, its variables, its random numbers and files.
-/

namespace DexLens.Network

structure Lab where
 graphs : List (Nat × Graph) := []
 fresh : Nat := 1
 seed : Nat := 0
 named : Parts := []
 hasFolder : Bool := false
 files : List (String × Bytes) := []
 stored : Parts := []
 written : Bytes := []

abbrev Work := ExceptT Fault (StateM Lab)

namespace Lab

variable (lab : Lab) (ref : Nat) (g : Graph)

def tagSpace : Nat := .pow 2 32

def claimTags : Graph := g.mapRecords fun r => if r.tag < tagSpace then { r with tag := ref * tagSpace + r.tag } else r

def sharing : Bool := g.records.any (·.tag / tagSpace != ref)

def changed (old g : Graph) : List Record :=
 let before := old.records
 g.records.filter fun r =>
  if let some q := before.find? (·.tag == r.tag) then Value.quoted q.items != Value.quoted r.items else false

def adopt (rs : List Record) (g : Graph) : Graph := g.mapRecords fun r => (rs.find? (·.tag == r.tag)).getD r

def put : Lab :=
 let g := claimTags ref g
 match lab.graphs.lookup ref with
 | none => { lab with graphs := lab.graphs ++ [(ref, g)] }
 | some old =>
  let shared := sharing ref g || lab.graphs.any fun (r, h) => r != ref && sharing r h
  let news := if shared then changed old g else []
  { lab with graphs := lab.graphs.map fun (r, h) =>
    if r == ref then (r, g) else if news.isEmpty then (r, h) else (r, adopt news h) }

def graph? : Value -> Option Graph
 | .graph ref => lab.graphs.lookup ref
 | _ => none

def items? (v : Value) : Option Vals := (lab.graph? v).elim v.items? (·.verts)

end Lab

namespace Work

variable (v : Value) (g : Graph)

def graph : Work Graph := do
 match (<- get).graph? v, v with
 | some g, _ => return g
 | none, .kind _ => throw .badKind
 | none, _ => throw .noPart

def keep : Work Value := do
 let lab <- get
 set ({ lab with fresh := lab.fresh + 1 }.put lab.fresh g)
 return .graph lab.fresh

def keepAll (gs : List Graph) : Work Value := return <- gs.mapM keep

def update : Work Unit := if let .graph ref := v then modify (·.put ref g) else throw .noPart

def items : Work Vals := do opt .badKind ((<- get).items? v)

def edit (changes : Edit Unit) : Work Unit := do
 let (r, h) := changes.run.run (<- graph v)
 update v h
 let .error f := r | return
 throw f

def draw {α : Type} (d : Draw α) : Work α := do
 let (r, s) := d.run.run (<- get).seed
 modify fun lab => { lab with seed := s }
 r

def reshape {α : Type} (w : ExceptT Fault (StateM (Graph × Nat)) α) : Work α := do
 let (r, g, s) := w.run.run (<- graph v, (<- get).seed)
 update v g
 modify fun lab => { lab with seed := s }
 r

def reseed : Work Unit := do
 let s <- Draw.seeded v
 modify fun lab => { lab with seed := s }

/-- A seed that is left out changes nothing. -/
def sow : Work Unit := do if !v.isNull then reseed v

end Work

export Work (keep draw reseed sow update)

end DexLens.Network
