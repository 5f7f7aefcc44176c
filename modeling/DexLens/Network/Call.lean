import DexLens.Json.Parser
import DexLens.Network.Lab

/-! # Calls

A call binds its arguments to the parameters of a command, by position or by name. A parameter with a question mark
can be left out, and one with an equals sign and nothing behind it has its own name as its value then.
-/

namespace DexLens.Network

open Text

inductive Param where
 | required (name : String)
 | optional (name : String) (dflt : Value)
 | rest
 | named

namespace Param

variable (s : String)

def name? : Param -> Option String
 | required n => some n
 | optional n _ => some n
 | _ => none

def atom : Value :=
 if s = "None" then .null
 else if s = "True" then .bool true
 else if s = "False" then .bool false
 else if s = "_" then .text " "
 else if ["str", "sum", "float"].contains s then .function s
 else if s.startsWith "'" then .text (.ofList ((s.toList.drop 1).dropLast))
 else
  if let some i := int? s then .int i
  else
   match Json.parse? s with
   | some (.float x) => .float x
   | some (.int i) => .int i
   | _ => .text s

def literal : Value :=
 let inner := .ofList (s.toList.drop 1).dropLast
 let parts := ((split ',' inner).filter (· != "")).map atom
 if s.startsWith "(" then .tuple parts
 else if s.startsWith "[" then parts
 else atom s

def parse : Param :=
 if s.startsWith "**" then named
 else if s.startsWith "*" then rest
 else
  match cut? s "=", cut? s "?" with
  | some (n, v), _ => optional n (if v = "" then .text n else literal v)
  | none, some (n, _) => optional n .null
  | none, none => required s

def parseAll : List Param := (words s).map parse

end Param

def bind (params : List Param) (given : Vals) (byName : Parts) : Res Vals:= do
 let names := params.filterMap Param.name?
 let takesNames := params.any fun p => match p with | .named => true | _ => false
 if !takesNames && byName.any (!names.contains ·.1) then .error .badKind
 go params given
where
 extra : Pairs :=
  let names := params.filterMap Param.name?
  (byName.filter (!names.contains ·.1)).map fun (n, v) => (.text n, v)
 go : List Param -> Vals -> Res Vals
  | [], [] => .ok []
  | [], _ :: _ => .error .badKind
  | .rest :: ps, vs => return .tuple vs :: (<- go ps [])
  | .named :: ps, vs => return .dict extra :: (<- go ps vs)
  | .required n :: ps, v :: vs => do if byName.any (·.1 == n) then .error .badKind else return v :: (<- go ps vs)
  | .optional n _ :: ps, v :: vs => do if byName.any (·.1 == n) then .error .badKind else return v :: (<- go ps vs)
  | .required n :: ps, [] => do
   let some v := byName.lookup n | .error .badKind
   return v :: (<- go ps [])
  | .optional n d :: ps, [] => return (byName.lookup n).getD d :: (<- go ps [])

structure Args where
 values : Vals

namespace Args

variable (a : Args) (i : Nat)

def val : Value := a.values.getD i .null

instance : CoeFun Args fun _ => Nat -> Value := ⟨val⟩

def graph (i : Nat := 0) : Work Graph := .graph (a i)

def isNull : Bool := (a i).isNull

def truth : Bool := (a i).truth

def items : Work Vals := .items (a i)

def items? : Work (Option Vals) := return (<- get).items? (a i)

def size? : Work (Option Nat) := return ((<- get).graph? (a i)).elim (a i).size? (·.order)

def int : Work Int := (a i).asInt

def num : Work Num := (a i).num

def dict : Work Items := (a i).asDict

def graphNot (kinds : String) : Work Graph := do
 let g <- a.graph
 let fits := (words kinds).all fun k =>
  if k = "directed" then g.directed
  else if k = "undirected" then !g.directed
  else if k = "multigraph" then g.multi
  else !g.multi
 if fits then throw (.graph .unsupported s!"not implemented for {kinds} type")
 return g

end Args

structure Cmd where
 (name params : String)
 run : Args -> Work Value

/-! ## Functions as commands -/

class Reads (α : Type) where
 read : Value -> Work α

instance : Reads Value := ⟨pure⟩
instance : Reads Bool := ⟨fun v => return v.truth⟩
instance : Reads Int := ⟨(·.asInt)⟩
instance : Reads Num := ⟨(·.num)⟩
instance : Reads Items := ⟨(·.asDict)⟩
instance : Reads Vals := ⟨Work.items⟩
instance : Reads Graph := ⟨Work.graph⟩

class Gives (α : Type) where
 give : α -> Work Value

export Gives (give)

instance : Gives Value := ⟨pure⟩
instance {α : Type} [Coe α Value] : Gives α := ⟨fun x => return x⟩
instance : Gives Graph := ⟨keep⟩
instance {α β : Type} [Gives α] [Gives β] : Gives (α × β) := ⟨fun p => return .tuple [<- give p.1, <- give p.2]⟩
instance {α : Type} [Gives α] : Gives (Table α) := ⟨fun t => return <- t.mapM fun (k, x) => return (k, <- give x)⟩
instance {m : Type -> Type} {α : Type} [MonadLiftT m Work] [Gives α] : Gives (m α) := ⟨fun x => do give (<- x)⟩
instance {α : Type} [Gives α] : Gives (Draw α) := ⟨fun x => do give (<- draw x)⟩

/-- What can be run: what gives a value, or a function of what can be read. -/
class Runs (α : Type) where
 run : α -> Nat -> Args -> Work Value

instance {α : Type} [Gives α] : Runs α := ⟨fun x _ _ => give x⟩
instance {α β : Type} [Reads α] [Runs β] : Runs (α -> β) := ⟨fun f i a => do Runs.run (f (<- Reads.read (a i))) (i + 1) a⟩

instance {α : Type} [Runs α] (f : α) : CoeT α f (Args -> Work Value) := ⟨Runs.run f 0⟩

namespace Cmd

variable (name params : String)

/-- A command on the graph that is its first argument. -/
def of (run : Graph -> Args -> Work Value) : Cmd :=
 ⟨name, params, fun a => do run (<- a.graph) a⟩

def kept (make : Args -> Work Graph) : Cmd := ⟨name, params, fun a => do keep (<- make a)⟩

/-- Commands of one family: their names begin alike. -/
def family (lead : String) (cs : List Cmd) : List Cmd := cs.map fun c => { c with name := lead ++ c.name }

def call (c : Cmd) (given : Vals) (byName : Parts) : Work Value := do
 c.run ⟨<- bind (Param.parseAll c.params) given byName⟩

end Cmd

def Value.ofTable {α : Type} (f : α -> Value) (t : Table α) : Value := .dict (t.map fun (k, a) => (k, f a))

end DexLens.Network
