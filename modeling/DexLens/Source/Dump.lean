import DexLens.Source.Graph

/-! # Terms and statements as they are listed -/

namespace DexLens.Source

def Scalar.dump : Scalar -> String
 | text s => Text.quoted s
 | v => v.shown

def Leaf.dump : Leaf -> String
 | constant c => "CST_" ++ c.value.dump
 | className s => "BASECLASS_" ++ s
 | named n => "VAR_" ++ n.text
 | param r _ => s!"PARAM_{r}"
 | this _ _ => "THIS"

def kindDump (kind : String) : String := s!"<androguard.decompiler.dad.instruction.{kind}>"

def Op.dump (t : Found String) : Op -> String
 | newObject ty => s!"NEW({ty})"
 | call _ _ method receiver _ _ args => s!"{t.of receiver}.{method}(" ++ ", ".intercalate (args.map t.of) ++ ")"
 | element a i _ => s!"ARRAYLOAD({t.of a}, {t.of i})"
 | length a => s!"ARRAYLEN({t.of a})"
 | newArray size ty => s!"NEWARRAY_{ty}[{t.of size}]"
 | filledArray _ _ _ => kindDump "FilledArrayExpression"
 | binary _ op a b _ => s!"({op} {t.of a} {t.of b})"
 | unary op a => s!"({op}, {t.of a})"
 | cast op _ a => s!"CAST_{op}({a.text})"
 | field a _ _ name => t.of a ++ "." ++ name
 | staticField cls _ name => cls ++ "." ++ name

namespace Term

mutual

def dump : Term -> String
 | leaf l => l.dump
 | node op xs => op.dump (dumpAll xs)

def dumpAll : List (Name × Term) -> Found String
 | [] => []
 | (n, x) :: xs => (n, x.dump) :: dumpAll xs

end

end Term

namespace Statement

open Term

def dump : Statement -> String
 | assign l defines v => "ASSIGN(" ++ (if defines then l.dump else "None") ++ s!", {v.dump})"
 | act a xs =>
  let of n := (operand xs n).dump
  match a with
  | .move t v | .moveResult t v => of t ++ " = " ++ of v
  | .store v arr i => s!"{of arr}[{of i}] = {of v}"
  | .putStatic _ _ _ => kindDump "StaticInstruction"
  | .putField v o name => s!"{of o}.{name} = {of v}"
  | .giveBack (some v) => s!"RETURN({of v})"
  | .giveBack none => "RETURN"
  | .nothing => kindDump "NopExpression"
  | .choose v => s!"SWITCH({of v})"
  | .compare r a b => s!"COND({r.text}, {of a}, {of b})"
  | .compareZero r _ a => s!"(IS{r.text}0, {of a})"
  | .catching _ => kindDump "RefExpression"
  | .throwing _ => kindDump "ThrowExpression"
  | .fill _ _ => kindDump "FillArrayExpression"

def dumpValues : Statement -> List String
 | act (.fill v _) _ => [v.text]
 | s => s.value?.toList.map Term.dump

end Statement

def blockTitle (g : Graph) (numbered : Bool) : Nat -> Nat -> String
 | 0, _ => ""
 | depth + 1, n =>
  let b := g.block n
  let front kind := (if numbered then s!"{b.num}-" else "") ++ kind
  let inner m := blockTitle g numbered depth m
  match b.shape with
  | .plain => front "Statement(" ++ b.name ++ ")"
  | .giveBack => front "Return(" ++ b.name ++ ")"
  | .throwing => front "Throw(" ++ b.name ++ ")"
  | .choice _ => front "Switch(" ++ b.name ++ ")"
  | .condition => front "If(" ++ b.name ++ ")"
  | .joined x y both turned =>
   front "SC(" ++ (if turned then "!" else "") ++ inner x ++ (if both then " && " else " || ") ++ inner y ++ ")"
  | .loop body =>
   match b.loopKind with
   | some .pretest =>
    front "While(" ++ (if b.onFalse.any b.loopNodes.contains then "!" else "") ++ s!"{b.name})[{inner body}]"
   | some .posttest => front "DoWhile(" ++ s!"{b.name})[{inner body}]"
   | some .endless => front "WhileTrue(" ++ s!"{b.name})[{inner body}]"
   | none => front "WhileNoType(" ++ b.name ++ ")"

def titleOf (g : Graph) (numbered : Bool) (n : Nat) : String := blockTitle g numbered (g.blocks.size + 1) n

/-- With the lines of joined conditions and loops, and how many of them were numbered for the block. -/
def blockLines (g : Graph) : Nat -> Nat -> List Statement × Res Nat
 | 0, _ => ([], .ok 0)
 | depth + 1, n =>
  let b := g.block n
  match b.shape with
  | .joined x y _ _ =>
   let (ls, c) := blockLines g depth x
   let (ms, d) := blockLines g depth y
   (ls ++ ms, do return (<- c) + (<- d))
  | .loop body => blockLines g depth body
  | _ => (b.code, b.ownLines.map List.length)

end DexLens.Source
