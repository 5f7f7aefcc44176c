import DexLens.Code.Instruction
import DexLens.Source.Term

/-! # Statements -/

namespace DexLens.Source

inductive Relation where
 | eq | ne | lt | ge | gt | le
 deriving DecidableEq, Inhabited

def Relation.text : Relation -> String
 | eq => "=="
 | ne => "!="
 | lt => "<"
 | ge => ">="
 | gt => ">"
 | le => "<="

def Relation.opposite : Relation -> Relation
 | eq => ne
 | ne => eq
 | lt => ge
 | ge => lt
 | gt => le
 | le => gt

/-- What a statement does with its operands, which it knows by their names. -/
inductive Action where
 | move (dst value : Name)
 | moveResult (dst value : Name)
 | store (value array index : Name)
 | putStatic (value : Name) (cls name : String)
 | putField (value object : Name) (name : String)
 | giveBack (value : Option Name)
 | nothing
 | choose (on : Name)
 /-- A condition; `turned` tells that it is the opposite of what the code says. -/
 | compare (rel : Relation) (left right : Name)
 | compareZero (rel : Relation) (turned : Bool) (arg : Name)
 | catching (ref : Name)
 | throwing (ref : Name)
 | fill (array : Name) (payload : Option Code.Instr)

inductive Statement where
 /-- `dst` is not written to when `defines` is false. -/
 | assign (dst : Leaf) (defines : Bool) (value : Term)
 | act (action : Action) (operands : List (Name × Term))

namespace Statement

open Term

def target? : Statement -> Option Name
 | assign l true _ => some l.name
 | assign _ false _ => none
 | act (.move t _) _ | act (.moveResult t _) _ => some t
 | act _ _ => none

def value? : Statement -> Option Term
 | assign _ _ v => some v
 | act (.move _ v) xs | act (.moveResult _ v) xs => some (operand xs v)
 | act _ _ => none

def used : Statement -> List Name
 | assign _ _ v => v.used
 | act a xs =>
  let of n := (operand xs n).used
  match a with
  | .move _ v | .moveResult _ v | .putStatic v _ _ | .choose v | .compareZero _ _ v | .catching v | .throwing v
  | .fill v _ => of v
  | .store v arr i => uniq (of arr ++ of i ++ of v)
  | .putField v o _ => uniq (of o ++ of v)
  | .compare _ a b => uniq (of a ++ of b)
  | .giveBack (some v) => of v
  | .giveBack none | .nothing => []

def isCall : Statement -> Bool
 | assign _ _ v => v.isCall
 | act (.move _ v) xs | act (.moveResult _ v) xs => (operand xs v).isCall
 | act _ _ => false

def hasEffect : Statement -> Bool
 | assign _ _ v => v.hasEffect
 | act (.moveResult _ v) xs => (operand xs v).hasEffect
 | act (.store _ _ _) _ | act (.putStatic _ _ _) _ | act (.putField _ _ _) _ => true
 | act _ _ => false

def isMovable : Statement -> Bool
 | assign _ _ v => v.isMovable
 | act (.moveResult _ v) xs => (operand xs v).isMovable
 | act (.fill _ _) _ => false
 | act _ _ => true

def isCondition : Statement -> Bool
 | act (.compare _ _ _) _ | act (.compareZero _ _ _) _ => true
 | _ => false

def dropTarget : Statement -> Statement
 | assign l _ v => assign l false v
 | s => s

def modifyAt (old : Name) (new : Term) (xs : List (Name × Term)) (n : Name) : Res (List (Name × Term)) :=
 return put xs n (<- modify old new (operand xs n))

def modify (old : Name) (new : Term) : Statement -> Res Statement
 | assign l d v => do return assign l d (<- Term.modify old new v)
 | act a xs =>
  let has := xs.any (·.1 == old)
  match a with
  | .move _ v =>
   if old == v then .ok (act a (put xs old new))
   else if (operand xs v).isLeaf then .ok (act a xs)
   else do return act a (<- modifyAt old new xs v)
  | .moveResult _ v => if old == v then .ok (act a (put xs old new)) else do return act a (<- modifyAt old new xs v)
  | .putStatic v _ _ | .catching v | .throwing v =>
   if has then .ok (act a (put xs old new)) else do return act a (<- modifyAt old new xs v)
  | .giveBack (some v) =>
   if (operand xs v).isLeaf then .ok (act a (put xs old new)) else do return act a (<- modifyAt old new xs v)
  | .giveBack none => .error .noKey
  | .nothing => .error .noPart
  | .fill _ _ => .ok (if has then act a (put xs old new) else act a xs)
  | .store _ _ _ | .putField _ _ _ | .choose _ | .compare _ _ _ | .compareZero _ _ _ =>
   if has then .ok (act a (put xs old new)) else do return act a (<- modifyAll old new none xs)

def negate : Statement -> Res Statement
 | act (.compare r a b) xs => .ok (act (.compare r.opposite a b) xs)
 | act (.compareZero r _ a) xs => .ok (act (.compareZero r.opposite true a) xs)
 | _ => .error .noPart

end Statement

end DexLens.Source
