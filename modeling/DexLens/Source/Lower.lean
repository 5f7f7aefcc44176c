import DexLens.Dex.File
import DexLens.Source.Statement

/-! # From instructions to statements -/

namespace DexLens.Source

open Code Dex Leaf

variable (d : File) (f : Frame) (st : Results) (op : Nat) (ins : Instr) (payload : Option Instr)

/-- What the registers of a method hold at its start: the object itself and the parameters. -/
structure Frame where
 this? : Option (Int × String)
 params : List (Int × String)
 deriving Inhabited

def Frame.leaf (f : Frame) (r : Int) : Leaf :=
 match f.this? with
 | some (n, t) => if n = r then .this r t else other
 | none => other
where
 other : Leaf :=
  match f.params.lookup r with
  | some t => .param r t
  | none => .named (.reg r)

def Frame.regs (f : Frame) : List Int := f.this?.toList.map (·.1) ++ f.params.map (·.1)

/-- Names for the results of calls: how many were made, and where the last result went. -/
structure Results where
 made : Nat
 last : Option Leaf
 deriving Inhabited

def Results.fresh (r : Results) : Leaf × Results :=
 let l := named (.made s!"tmp{r.made + 1}")
 (l, ⟨r.made + 1, l⟩)

def table (ls : List Leaf) : List (Name × Term) := ls.foldl (fun xs l => Term.put xs l.name (.leaf l)) []

def onLeaves (op : Op) (ls : List Leaf) : Term := .node op (table ls)

def actOn (a : Action) (ls : List Leaf) : Statement := .act a (table ls)

/-- Operators and types of the instructions for arithmetic, in the order of their opcodes. -/
def arithmetic : List (String × String) :=
 let whole := ["+", "-", "*", "/", "%", "&", "|", "^", "<<", ">>", ">>"]
 let real := ["+", "-", "*", "/", "%"]
 whole.map (·, "I") ++ whole.map (·, "J") ++ real.map (·, "F") ++ real.map (·, "D")

def literalOperators : List String := ["+", "-", "*", "/", "%", "&", "|", "^", "<<", ">>", ">>"]

def unaryOperators : List String := ["-", "~", "-", "~", "-", "-"]

def conversions : List (String × String) :=
 [("(long)", "J"), ("(float)", "F"), ("(double)", "D"), ("(int)", "I"), ("(float)", "F"), ("(double)", "D"),
  ("(int)", "I"), ("(long)", "J"), ("(double)", "D"), ("(int)", "I"), ("(long)", "J"), ("(float)", "F"),
  ("(byte)", "B"), ("(char)", "C"), ("(short)", "S")]

def comparisons : List String := ["F", "F", "D", "D", "J"]

def elementKinds : List (Option String) := [none, "W", "O", "Z", "B", "C", "S"]

def relations : List Relation := [.eq, .ne, .lt, .ge, .gt, .le]

def entry {α : Type} [Inhabited α] (xs : List α) (op first : Nat) : α := xs.getD (op - first) default

def wholeConstant (i : Int) : Leaf := .constant ⟨.int i, "I", .int i⟩

def textConstant (s type : String) : Leaf := .constant ⟨.text s, type, .text s⟩

def loadedNumber (lit : Int) : Leaf :=
 match ins.floatForm? with
 | some x =>
  let type := if ins.op = 0x14 || ins.op = 0x15 then "F" else if ins.op = 0x18 || ins.op = 0x19 then "D" else "J"
  .constant ⟨.float x.toBits, type, .int lit⟩
 | none => wholeConstant lit

structure Callee where
 (cls name result : String)
 params : List String

def callee (idx : Nat) : Res Callee := do
 let m <- d.methodSigs idx
 let cls <- typeName? m.cls
 match m.proto with
 | .parts params result =>
  let result <- typeName? result
  match params with
  | some ps => return ⟨cls, File.shown m.name, result, Descriptor.parameters ps⟩
  | none => throw .noPart
 | .whole _ => throw .badVal
 | .unknown => throw .badKind

/-- The first register of each argument; arguments of two registers take the next one along. -/
def argumentRegisters : List String -> List Nat -> Res (List Nat)
 | [], _ => .ok []
 | _ :: _, [] => .error .beyond
 | t :: ts, r :: rs => return r :: (<- argumentRegisters ts (if Descriptor.regs t = 2 then rs.drop 1 else rs))

def callTerm (static : Bool) (c : Callee) (receiver : Leaf) (args : List Leaf) : Term :=
 onLeaves (.call static c.cls c.name receiver.name c.result c.params (args.map name)) (receiver :: args)

section

variable (operator : String) (a b c : Leaf) (idx : Nat)

/-- The result of a call gets a new name. The call of a constructor writes to the object itself. -/
def lowerCall (op idx count c : Nat) (more : List Nat) : Res (Statement × Results):= do
 let m <- callee d idx
 let keep value :=
  let (l, st) := st.fresh
  return (.assign l true value, st)
 let upTo := (if count = 0 then more.take 3 else more.take (count - 1)).map fun (n : Nat) => f.leaf n
 if op = 0x6e || op = 0x70 then
  let args := (<- argumentRegisters m.params more).map fun (n : Nat) => f.leaf n
  let dst := f.leaf c
  if op = 0x6e then keep (callTerm false m dst args)
  else return (.assign dst true (callTerm false m dst args), { st with last := some dst })
 else if op = 0x71 then
  let args := (<- argumentRegisters m.params (c :: more)).map fun (n : Nat) => f.leaf n
  keep (callTerm true m (.className m.cls) args)
 else if op = 0x6f then keep (callTerm false m (.className "super") upTo)
 else keep (callTerm false m (f.leaf c) upTo)

def lowerRangeCall (op idx count first : Nat) : Res (Statement × Results):= do
 let m <- callee d idx
 let args := (List.range count).map fun i => f.leaf (first + i : Nat)
 let keep value :=
  let (l, st) := st.fresh
  return (.assign l true value, st)
 if op = 0x77 then keep (callTerm true m (.className m.cls) args)
 else
  match args with
  | [] => throw .beyond
  | receiver :: rest =>
   let value := callTerm false m receiver rest
   if op = 0x76 then return (.assign (f.leaf first) true value, { st with last := (f.leaf first) })
   else keep value

def fieldOf : Res (String × Option String × String) := do
 let n <- d.fieldSigs idx
 return (<- typeName? n.cls, n.type, File.shown n.name)

def lowerTwo : Statement :=
 if op = 0x21 then .assign a true (onLeaves (.length b.name) [b])
 else if op < 0x7b then actOn (.move a.name b.name) [a, b]
 else if op < 0x81 then .assign a true (onLeaves (.unary (entry unaryOperators op 0x7b) b.name) [b])
 else if op < 0xb0 then
  let (text, type) := entry conversions op 0x81
  .assign a true (onLeaves (.cast text type b.name) [b])
 else
  let (text, type) := entry arithmetic op 0xb0
  .assign a true (onLeaves (.binary false text a.name b.name type) [a, b])

def lowerThree : Statement :=
 if op < 0x44 then
  .assign a true (onLeaves (.binary true "cmp" b.name c.name (some (entry comparisons op 0x2d))) [b, c])
 else if op < 0x4b then .assign a true (onLeaves (.element b.name c.name (entry elementKinds op 0x44)) [b, c])
 else if op < 0x90 then actOn (.store a.name b.name c.name) [a, b, c]
 else
  let (text, type) := entry arithmetic op 0x90
  .assign a true (onLeaves (.binary false text b.name c.name type) [b, c])

def lowerLiteral (lit : Int) : Statement :=
 let c := wholeConstant lit
 .assign a true (onLeaves (.binary false operator b.name c.name ("I")) [b, c])

def lowerIndexed : Res Statement := do
 if op = 0x1a || op = 0x1b then
  let s <- (ins.loaded d.codeTables).2
  return .assign a true (.leaf (textConstant (Instr.refText s) "STR"))
 else if op = 0x1c then
  let s <- (ins.loaded d.codeTables).1
  return .assign a true (.leaf (textConstant (<- typeName? s) "class"))
 else if op = 0x22 then return .assign a true (onLeaves (.newObject (<- d.type idx)) [])
 else
  let (cls, type, name) <- fieldOf d idx
  if op < 0x67 then return .assign a true (onLeaves (.staticField cls type name) [])
  else return actOn (.putStatic a.name cls name) [a]

def lowerIndexedTwo : Res Statement := do
 if op = 0x20 then
  let cls := className (<- typeName (<- d.type idx))
  return .assign a true (onLeaves (.binary false "instanceof" b.name cls.name none) [b, cls])
 else if op = 0x23 then return .assign a true (onLeaves (.newArray b.name (<- d.type idx)) [b])
 else
  let (cls, type, name) <- fieldOf d idx
  if op < 0x59 then return .assign a true (onLeaves (.field b.name cls type name) [b])
  else return actOn (.putField a.name b.name name) [a, b]

def lowerOne : Res Statement :=
 if op ≤ 0x0c then
  match st.last with
  | some r => .ok (actOn (.moveResult a.name r.name) [a, r])
  | none => .error .noPart
 else if op = 0x0d then .ok (actOn (.catching a.name) [a])
 else if op = 0x27 then .ok (actOn (.throwing a.name) [a])
 else .ok (actOn (.giveBack a.name) [a])

end

def lowerFilled (size type : Leaf) (args : List Leaf) : Statement × Results :=
 let (l, st) := st.fresh
 (.assign l true (onLeaves (.filledArray size.name type (args.map name)) (size :: args)), st)

/-- The statement that an instruction stands for. `payload` is what the instruction refers to. -/
def lowerBody (st : Results) (ins : Instr) : Res (Statement × Results):= do
 let r (n : Nat) := f.leaf n
 let plain (s : Statement) := .ok (s, st)
 let op := ins.op.toNat
 match ins with
 | .f10x _ => plain (.act (if op = 0x0e then .giveBack none else .nothing) [])
 | .f12x _ a b | .f22x _ a b | .f32x _ a b => plain (lowerTwo op (r a) (r b))
 | .f11x _ a => return (<- lowerOne st op (r a), st)
 | .f11n _ a lit | .f21s _ a lit | .f31i _ a lit | .f21h _ a lit | .f51l _ a lit =>
  plain (.assign (r a) true (.leaf (loadedNumber ins lit)))
 | .f21c _ a idx | .f31c _ a idx => return (<- lowerIndexed d op ins (r a) idx, st)
 | .f22c _ a b idx => return (<- lowerIndexedTwo d op (r a) (r b) idx, st)
 | .f35c _ count idx c d' e f' g _ =>
  if op = 0x24 then return lowerFilled st (r count) (r c) [r d', r e, r f', r g, r count]
  else lowerCall d f st op idx count c [d', e, f', g]
 | .f3rc _ count idx first =>
  if op = 0x25 then return lowerFilled st (r count) (r idx) [r first, f.leaf ((first : Int) + count - 1)]
  else lowerRangeCall d f st op idx count first
 | .f31t _ a _ =>
  if op = 0x26 then plain (actOn (.fill (r a).name payload) [r a]) else plain (actOn (.choose (r a).name) [r a])
 | .f23x _ a b c => plain (lowerThree op (r a) (r b) (r c))
 | .f22t _ a b _ => plain (actOn (.compare (entry relations op 0x32) (r a).name (r b).name) [r a, r b])
 | .f21t _ a _ => plain (actOn (.compareZero (entry relations op 0x38) false (r a).name) [r a])
 | .f22s _ a b lit => plain (lowerLiteral (entry literalOperators op 0xd0) (r a) (r b) lit)
 | .f22b _ a b lit =>
  if op = 0xd8 && lit < 0 then plain (lowerLiteral "-" (r a) (r b) (-lit))
  else plain (lowerLiteral (entry literalOperators op 0xd8) (r a) (r b) lit)
 | _ => plain (.act .nothing [])

def isSilent (op : Int) : Bool := op = 0x1f || op = -1 || op = 0x1d || op = 0x1e

def isBare (op : Int) : Bool :=
 op = 0 || op = 0x0e || 0x28 ≤ op && op ≤ 0x2a || 0x3e ≤ op && op ≤ 0x43 || op = 0x73 || op = 0x79 || op = 0x7a

/-- The references of the instruction must be sound. -/
def lower (st : Results) (ins : Instr) : Res (Option Statement × Results) := do
 let op := ins.op
 if isSilent op then return (none, st)
 if op > 0xe2 then
  let _ <- ins.name
  throw .gaveUp
 if !isBare op then let _ <- ins.output d.codeTables 0
 let (s, st) <- lowerBody d f payload st ins
 return (s, st)

end DexLens.Source
