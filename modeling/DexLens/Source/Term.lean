import DexLens.Decimal.Basic
import DexLens.Source.Literal
import DexLens.Source.Net

/-! # Terms

A term that is not a leaf has its operands in a table under the names of the registers they were first read from;
putting a term in the place of a register changes the entry of the table.
-/

namespace DexLens.Source

/-- The name of a value: a register, or a name made up for a result or a constant. -/
inductive Name where
 | reg (n : Int)
 | made (text : String)
 deriving DecidableEq

def Name.text : Name -> String
 | reg n => toString n
 | made s => s

def Name.before : Name -> Name -> Bool
 | reg a, reg b => a ≤ b
 | reg _, made _ => true
 | made _, reg _ => false
 | made a, made b => a ≤ b

def uniq (ns : List Name) : List Name := ns.eraseDups.mergeSort Name.before

/-- The value of a constant. Floating-point numbers are kept by their bits. -/
inductive Scalar where
 | int (i : Int)
 | float (bits : UInt64)
 | text (s : String)
 deriving DecidableEq, Inhabited

def Scalar.shown : Scalar -> String
 | int i => toString i
 | float bits => Decimal.shortestText (.ofBits bits)
 | text s => s

/-- A constant: its value, its type, and its value as a whole number. -/
structure Constant where
 value : Scalar
 type : String
 whole : Scalar
 deriving DecidableEq, Inhabited

inductive Leaf where
 | constant (c : Constant)
 | className (name : String)
 | named (name : Name)
 | param (reg : Int) (type : String)
 | this (reg : Int) (type : String)
 deriving DecidableEq, Inhabited

namespace Leaf

def name : Leaf -> Name
 | constant c => .made ("c" ++ c.value.shown)
 | className s => .made ("c" ++ s)
 | named n => n
 | param r _ | this r _ => .reg r

def isConst : Leaf -> Bool
 | constant _ | className _ | this _ _ => true
 | named _ | param _ _ => false

def used : Leaf -> List Name
 | named n => [n]
 | param r _ => [.reg r]
 | constant _ | className _ | this _ _ => []

def type? : Leaf -> Option String
 | constant c => some c.type
 | param _ t | this _ t => some t
 | className _ | named _ => none

def constantText (c : Constant) : Scalar -> String
 | .text s => if c.type == "class" then s else literal s
 | v => v.shown

def text : Leaf -> String
 | constant c => constantText c c.value
 | className s => s
 | named (.reg n) => s!"v{n}"
 | named (.made s) => s
 | param r _ => s!"p{r}"
 | this _ _ => "this"

end Leaf

/-- What a term does with its operands, which it knows by their names. -/
inductive Op where
 | newObject (type : String)
 | call (static : Bool) (cls method : String) (receiver : Name) (result : String) (params : List String)
  (args : List Name)
 | element (array index : Name) (type : Option String)
 | length (array : Name)
 | newArray (size : Name) (type : String)
 | filledArray (size : Name) (type : Leaf) (args : List Name)
 | binary (comparing : Bool) (op : String) (left right : Name) (type : Option String)
 | unary (op : String) (arg : Name)
 | cast (op type : String) (arg : Name)
 | field (object : Name) (cls : String) (type : Option String) (name : String)
 | staticField (cls : String) (type : Option String) (name : String)

inductive Term where
 | leaf (l : Leaf)
 | node (op : Op) (operands : List (Name × Term))
 deriving Inhabited

abbrev Found (α : Type) := List (Name × α)

def Found.of {α : Type} [Inhabited α] (t : Found α) (n : Name) : α := (t.lookup n).getD default

namespace Op

def used (t : Found (List Name)) : Op -> List Name
 | newObject _ | staticField _ _ _ => []
 | call static _ _ receiver _ _ args => uniq (args.flatMap t.of ++ if static then [] else t.of receiver)
 | element a i _ => uniq (t.of a ++ t.of i)
 | binary _ _ a b _ => uniq (t.of a ++ t.of b)
 | filledArray size _ args => uniq (args.flatMap t.of ++ [size])
 | length a | newArray a _ | unary _ a | cast _ _ a | field a _ _ _ => t.of a

/-- Does it change anything, given which operands do? Only the two sides of an operator are looked
    at. -/
def hasEffect (t : Found Bool) : Op -> Bool
 | call _ _ _ _ _ _ _ | filledArray _ _ _ => true
 | binary _ _ a b _ => t.of a || t.of b
 | _ => false

def isCall : Op -> Bool
 | call _ _ _ _ _ _ _ => true
 | _ => false

def isMovable : Op -> Bool
 | newArray _ _ | filledArray _ _ _ => false
 | _ => true

def type? (t : Found (Option String)) : Op -> Option String
 | newObject ty => some ty
 | call _ _ _ _ result _ _ => some result
 | length _ => some "I"
 | unary _ a => t.of a
 | cast _ ty _ => some ty
 | field _ _ ty _ | staticField _ ty _ => ty
 | element _ _ _ | newArray _ _ | filledArray _ _ _ | binary _ _ _ _ _ => none

end Op

namespace Term

mutual

def used : Term -> List Name
 | leaf l => l.used
 | node op xs => op.used (usedAll xs)

def usedAll : List (Name × Term) -> Found (List Name)
 | [] => []
 | (n, x) :: xs => (n, x.used) :: usedAll xs

end

mutual

def hasEffect : Term -> Bool
 | leaf _ => false
 | node op xs => op.hasEffect (hasEffectAll xs)

def hasEffectAll : List (Name × Term) -> Found Bool
 | [] => []
 | (n, x) :: xs => (n, x.hasEffect) :: hasEffectAll xs

end

mutual

def type? : Term -> Option String
 | leaf l => l.type?
 | node op xs => op.type? (typeAll xs)

def typeAll : List (Name × Term) -> Found (Option String)
 | [] => []
 | (n, x) :: xs => (n, x.type?) :: typeAll xs

end

def isCall : Term -> Bool
 | leaf _ => false
 | node op _ => op.isCall

def isConst : Term -> Bool
 | leaf l => l.isConst
 | node _ _ => false

def isMovable : Term -> Bool
 | leaf _ => true
 | node op _ => op.isMovable

def isLeaf : Term -> Bool
 | leaf _ => true
 | node _ _ => false

def isThe (l : Leaf) : Term -> Bool
 | leaf m => l == m
 | node _ _ => false

variable (xs : List (Name × Term)) (n : Name)

def put (t : Term) : List (Name × Term) := revise xs n (fun _ => t) t

def operand : Term := (xs.lookup n).getD default

mutual

/-- If the register is the name of an operand, that operand is replaced; the operand of a call only if it is a leaf.
    Otherwise the change is made inside the operands that are no leaves. -/
def modify (old : Name) (new : Term) : Term -> Res Term
 | leaf _ => .error .noPart
 | node op xs =>
  match op with
  | .newObject _ | .staticField _ _ _ => .ok (node op xs)
  | .filledArray _ _ _ => .ok (node op (if xs.any (·.1 == old) then put xs old new else xs))
  | .call _ _ _ _ _ _ _ =>
   if xs.any (·.1 == old) then do
    if (operand xs old).isLeaf then return node op (put xs old new)
    return node op (<- modifyAll old new (some old) xs)
   else do return node op (<- modifyAll old new none xs)
  | _ =>
   if xs.any (·.1 == old) then .ok (node op (put xs old new))
   else do return node op (<- modifyAll old new none xs)

def modifyAll (old : Name) (new : Term) (only : Option Name) : List (Name × Term) -> Res (List (Name × Term))
 | [] => .ok []
 | (n, x) :: xs => do
  let y <- if x.isLeaf || (only.isSome && only != some n) then pure x else modify old new x
  return (n, y) :: (<- modifyAll old new only xs)

end

end Term

/-- Written text, and whether a call to another constructor of the same class was left out. -/
structure Phrase where
 text : String
 elided : Bool
 deriving Inhabited

namespace Phrase

def of (s : String) : Phrase := ⟨s, false⟩

instance : Append Phrase := ⟨fun a b => ⟨a.text ++ b.text, a.elided || b.elided⟩⟩

def commas : List Phrase -> Phrase
 | [] => of ""
 | [p] => p
 | p :: ps => p ++ of ", " ++ commas ps

end Phrase

/-- In a constructor the call of another constructor of `this` without arguments is left out. -/
def Op.phrase (inInit : Bool) (onThis : Name -> Bool) (t : Found Phrase) : Op -> Res Phrase
 | newObject ty => do return .of ("new " ++ (<- typeName ty))
 | call _ _ method receiver _ _ args =>
  if onThis receiver && method == "<init>" && inInit && args.isEmpty then .ok ⟨"", true⟩
  else
   let called := if method == "<init>" then "" else "." ++ method
   .ok (t.of receiver ++ .of (called ++ "(") ++ Phrase.commas (args.map t.of) ++ .of ")")
 | element a i _ => .ok (t.of a ++ .of "[" ++ t.of i ++ .of "]")
 | length a => .ok (t.of a ++ .of ".length")
 | newArray size ty => do return .of ("new " ++ (<- typeName (Text.inside 1 0 ty)) ++ "[") ++ t.of size ++ .of "]"
 | filledArray size ty args =>
  .ok (.of s!"filled-new-array(type={ty.text}, size=" ++ t.of size ++
   (args.map (Phrase.of ", arg=" ++ t.of ·)).foldl (· ++ ·) (.of "") ++ .of ")")
 | binary false op a b _ => .ok (.of "(" ++ t.of a ++ .of s!" {op} " ++ t.of b ++ .of ")")
 | binary true op a b _ => .ok (t.of a ++ .of s!" {op} " ++ t.of b)
 | unary op a | cast op _ a => .ok (.of s!"({op} " ++ t.of a ++ .of ")")
 | field a _ _ name => .ok (t.of a ++ .of ("." ++ name))
 | staticField cls _ name => .ok (.of s!"{cls}.{name}")

namespace Term

def isThis : Term -> Bool
 | leaf (.this _ _) => true
 | _ => false

mutual

def phrase (inInit : Bool) : Term -> Res Phrase
 | leaf l => .ok (.of l.text)
 | node op xs => do op.phrase inInit (fun n => (operand xs n).isThis) (<- phraseAll inInit xs)

def phraseAll (inInit : Bool) : List (Name × Term) -> Res (Found Phrase)
 | [] => .ok []
 | (n, x) :: xs => do return (n, <- x.phrase inInit) :: (<- phraseAll inInit xs)

end

end Term

end DexLens.Source
