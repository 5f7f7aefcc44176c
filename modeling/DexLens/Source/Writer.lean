import DexLens.Source.Graph

/-! # Writing source text -/

namespace DexLens.Source

open Term

structure Page where
 graph : Graph
 inInit : Bool
 pieces : List String
 indent : Nat
 visited : List Nat
 /-- Where the innermost loop, branch and switch end, and the block that tests whether the loop goes on. -/
 (loopEnds branchEnds choiceEnds latches : List (Option Nat))
 nextCase : Option Nat
 /-- The next line continues one that has only been indented. -/
 (continuing needsBreak : Bool)

abbrev Writing := StateT Page Res

def Page.blank (g : Graph) (inInit : Bool) : Page :=
 ⟨g, inInit, [], 4, [], [none], [none], [none], [none], none, false, true⟩

def Page.text (p : Page) : String := .join p.pieces.reverse

namespace Writing

variable (go : Option Nat -> Writing Unit) (n : Nat) (b : Block) (s : String)

def put : Writing Unit := modify fun p => { p with pieces := s :: p.pieces }

def space : Writing String := do
 let p <- get
 if p.continuing then
  set { p with continuing := false }
  return ""
 else return Text.times p.indent " "

def line : Writing Unit := do put ((<- space) ++ s ++ "\n")

def indented {α : Type} (m : Writing α) : Writing α := do
 modify fun p => { p with indent := p.indent + 4 }
 let a <- m
 modify fun p => { p with indent := p.indent - 4 }
 return a

def phrase (ph : Res Phrase) : Writing Unit := do
 match ph with
 | .ok ph =>
  put ph.text
  if ph.elided then modify fun p => { p with continuing := true }
 | .error f => throw f

def term (t : Term) : Writing Unit := do phrase (t.phrase (<- get).inInit)

def statement (dst : Term) (s : String) (value : Option Term) : Writing Unit := do
 put (<- space)
 term dst
 put s
 if let some v := value then term v
 put ";\n"

def assignment (dst value : Term) : Writing Unit := do
 let (.leaf l, .node (.binary _ op a b _) xs) := (dst, value) | statement dst " = " (some value)
 if (operand xs a).isThe l then
  let right := operand xs b
  let byOne := if let .leaf (.constant c) := right then c.whole == .int 1 else false
  if (op == "+" || op == "-") && byOne then statement dst (op ++ op) none
  else statement dst s!" {op}= " (some right)
 else statement dst " = " (some value)

def index : Term -> Writing Unit
 | .leaf (.constant c) => put (Leaf.constantText c c.whole)
 | t => term t

/-- A comparison of numbers takes over the relation, and a truth value is written by itself. -/
def zeroTest (rel : Relation) (turned : Bool) (arg : Term) : Writing Term := do
 if let .node (.binary true _ a b ty) xs := arg then
  let arg := node (.binary true rel.text a b ty) xs
  term arg
  return arg
 else
  if arg.type? = some "Z" then
   if rel = .eq && !turned then put "!"
   term arg
  else
   term arg
   put s!" {rel.text} 0"
  return arg

def bytes : Option Code.Instr -> Res String
 | some (.arrayData _ _ data) => .ok (", ".intercalate (data.dropLast.map (toString ·.toNat)))
 | _ => .error .noPart

def action (s : Statement) : Writing Statement := do
 match s with
 | .assign l true v => assignment (.leaf l) v
 | .assign _ false v =>
  put (<- space)
  term v
  if !(<- get).continuing then put ";\n"
 | .act a xs =>
  let of n := operand xs n
  match a with
  | .move t v =>
   let same := t == v || (if let .leaf l := of t then (of v).isThe l else false)
   if !same then assignment (of t) (of v)
  | .moveResult t v => statement (of t) " = " (some (of v))
  | .store v arr i =>
   put (<- space)
   term (of arr)
   put "["
   index (of i)
   put "] = "
   term (of v)
   put ";\n"
  | .putStatic v cls name =>
   put ((<- space) ++ cls ++ "." ++ name ++ " = ")
   term (of v)
   put ";\n"
  | .putField v o name => statement (of o) s!".{name} = " (some (of v))
  | .giveBack none => put ((<- space) ++ "return;\n")
  | .giveBack (some v) =>
   put ((<- space) ++ "return ")
   term (of v)
   put ";\n"
  | .nothing | .catching _ => pure ()
  | .choose v => term (of v)
  | .compare r a b =>
   term (of a)
   put s!" {r.text} "
   term (of b)
  | .compareZero r turned v => return .act a (Term.put xs v (<- zeroTest r turned (of v)))
  | .throwing v =>
   put ((<- space) ++ "throw ")
   term (of v)
   put ";\n"
  | .fill v payload =>
   put (<- space)
   term (of v)
   put " = \x7b"
   phrase ((bytes payload).map .of)
   put "\x7d;\n"
 return s

def lines (n : Nat) (ls : List Line) : Writing Unit := for l in ls do
  let s <- action l.code
  modify fun p => { p with graph := p.graph.alter n fun b =>
   { b with lines := b.lines.map fun k => if k.loc == l.loc then { k with code := s } else k } }

def block : Writing Block := return (<- get).graph.block n

def alter (f : Block -> Block) : Writing Unit := modify fun p => { p with graph := p.graph.alter n f }

def onlyLine : Writing Line := do
 let [l] := b.lines | throw .suspicious
 return l

def negate : Nat -> Nat -> Writing Unit
 | 0, _ => throw .tooDeep
 | depth + 1, n => do
  let b <- block n
  match b.shape with
  | .condition =>
   let l <- onlyLine b
   match l.code.negate with
   | .ok s => alter n fun b => { b with lines := [{ l with code := s }] }
   | .error f => throw f
  | .joined first second both turned =>
   alter n fun b => { b with shape := .joined first second (!both) turned }
   negate depth first
   negate depth second
  | .loop body => negate depth body
  | _ => throw .noPart

/-- Of two conditions in one the first is turned around while writing if the block says so. -/
def condition : Nat -> Nat -> Writing Unit
 | 0, _ => throw .tooDeep
 | depth + 1, n => do
  let b <- block n
  match b.shape with
  | .condition => lines n [<- onlyLine b]
  | .joined first second both turned =>
   if turned then negate depth first
   put "("
   condition depth first
   put (if both then ") && (" else ") || (")
   condition depth second
   put ")"
  | .loop body => condition depth body
  | _ => throw .noPart

def nesting : Writing Nat := return (<- get).graph.blocks.size + 1

def tested (before : String) (n : Nat) (after : String) : Writing Unit := do
 put ((<- space) ++ before)
 condition (<- nesting) n
 put after

def swap : Writing Unit := do
 negate (<- nesting) n
 alter n fun b => { b with onTrue := b.onFalse, onFalse := b.onTrue }

def top (stack : List (Option Nat)) : Option Nat := stack.head?.join

def wasVisited : Option Nat -> Writing Bool
 | some n => return (<- get).visited.contains n
 | none => return false

def loop (body : Nat) : Writing Unit := do
 let b <- block n
 let follow := b.follow.loop
 match b.loopKind with
 | some .pretest =>
  if b.onTrue = follow then swap n
  tested "while (" n ") \x7b\n"
 | some .posttest =>
  line "do \x7b"
  modify fun p => { p with latches := b.latch :: p.latches }
 | some .endless => line "while(true) \x7b"
 | none => pure ()
 modify fun p => { p with loopEnds := follow :: p.loopEnds }
 indented (do
  if b.loopKind = some .pretest then go (<- block n).onTrue else go (some body)
  modify fun p => { p with loopEnds := p.loopEnds.drop 1 })
 match b.loopKind with
 | some .pretest => line "\x7d"
 | some .posttest =>
  modify fun p => { p with latches := p.latches.drop 1 }
  let some l := b.latch | throw .noPart
  tested "\x7d while(" l ");\n"
 | _ =>
  indented (go b.latch)
  line "\x7d"
 if follow.isSome then go follow

def idleBranch : Writing Unit := do
 line "// Both branches of the conditions point to the same code."
 tested "// if (" n ") \x7b\n"
 indented (go b.onTrue)
 line "// \x7d"

def leavingBranch : Writing Unit := do
 tested "if (" n ") \x7b\n"
 indented (line "break;")
 line "\x7d"
 go (<- block n).onFalse

def meetingBranch (follow : Option Nat) : Writing Unit := do
 let b <- block n
 let turn <- if b.onTrue = follow || b.onTrue = (<- get).nextCase then pure true
  else if let some t := b.onTrue then pure (decide (b.num > (<- block t).num)) else throw .noPart
 if turn then swap n
 let b <- block n
 modify fun p => { p with branchEnds := follow :: p.branchEnds }
 if !(<- wasVisited b.onTrue) then
  tested "if (" n ") \x7b\n"
  indented (go b.onTrue)
 let hasElse := !(follow = b.onTrue || follow = b.onFalse)
 if hasElse then
  if !(<- wasVisited b.onFalse) then
   line "\x7d else \x7b"
   indented (go b.onFalse)
 modify fun p => { p with branchEnds := p.branchEnds.drop 1 }
 line "\x7d"
 go follow

def openBranch : Writing Unit := do
 tested "if (" n ") \x7b\n"
 let b <- block n
 indented (go b.onTrue)
 line "\x7d else \x7b"
 indented (go b.onFalse)
 line "\x7d"

def branch : Writing Unit := do
 let b <- block n
 if b.onFalse = b.onTrue then idleBranch go n b
 else
  let loopEnd := top (<- get).loopEnds
  if b.onFalse = loopEnd then swap n
  let b <- block n
  if loopEnd = b.onTrue || loopEnd = b.onFalse then leavingBranch go n
  else if b.follow.branch.isSome then meetingBranch go n b.follow.branch
  else openBranch go n

def oneCase (fallback : Option Nat) (i c : Nat) : Writing (Option Nat):= do
 if <- wasVisited (some c) then return fallback
 indented (do
  let some ks := (<- block n).keys.lookup c | throw .noKey
  for k in ks do line s!"case {k}:"
  modify fun p => { p with nextCase := b.cases[i + 1]? }
  let isFallback := fallback = c
  if isFallback then line "default:"
  indented (do
   go c
   if (<- get).needsBreak then line "break;" else modify fun p => { p with needsBreak := true })
  return if isFallback then none else fallback)

def choice : Writing Unit := do
 let b <- block n
 lines n b.lines.dropLast
 put ((<- space) ++ "switch (")
 let some l := b.lines.getLast? | throw .beyond
 lines n [l]
 put ") \x7b\n"
 let follow := b.follow.choice
 modify fun p => { p with choiceEnds := follow :: p.choiceEnds }
 let fallback <- b.cases.zipIdx.foldlM (fun f (c, i) => oneCase go n b f i c) b.fallback
 if fallback.isSome && fallback != follow then
  indented (do
   line "default:"
   indented (go fallback))
 line "\x7d"
 modify fun p => { p with choiceEnds := p.choiceEnds.drop 1 }
 go follow

def plain : Writing Unit := do
 let after := (<- get).graph.net.succs n
 lines n (<- block n).lines
 let [s] := after | pure ()
 let p <- get
 if some s = top p.loopEnds then line "break;"
 else if some s = p.nextCase then modify fun p => { p with needsBreak := false }
 else go (some s)

/-- Blocks at which something ends, and blocks that were written already, are left out. -/
def visit : Nat -> Option Nat -> Writing Unit
 | 0, _ => throw .tooDeep
 | depth + 1, dst => do
  let p <- get
  if dst = top p.branchEnds || dst = top p.choiceEnds || dst = top p.loopEnds || dst = top p.latches then
   return
  let some n := dst | throw .noPart
  if p.visited.contains n then return
  set { p with visited := n :: p.visited }
  let b <- block n
  match b.shape with
  | .plain => plain (visit depth) n
  | .giveBack =>
   modify fun p => { p with needsBreak := false }
   lines n b.lines
  | .throwing => lines n b.lines
  | .choice _ => choice (visit depth) n
  | .condition | .joined _ _ _ _ => branch (visit depth) n
  | .loop body => loop (visit depth) n body

end Writing

end DexLens.Source
