import DexLens.Descriptor
import DexLens.Inspect.Basic

/-! # Renaming classes and members

A new name takes the place of the string that named the thing. Only what is looked up again shows it.
-/

namespace DexLens.Inspect

open Descriptor Dex File

variable (i : Nat) (c : ClassDef) (r : MRef)

namespace Exports

def className (name : String) : String := "CLASS_" ++ classIdentifier name

/-- The names for members: a name that stands twice gets the descriptor of the member as well. -/
def memberNames (lead : String) (ms : List (String × String)) : List String :=
 ms.map fun (name, desc) =>
  if (ms.filter (·.1 == name)).length = 1 then lead ++ nameIdentifier name
  else lead ++ nameIdentifier name ++ "_" ++ identifier desc

def union (xs ys : List String) : List String := ys.foldl (fun xs y => if xs.contains y then xs else xs ++ [y]) xs

def addClass (d : File) (e : Exports) (i : Nat) (c : ClassDef) : Exports :=
 let ms := memberNames "METHOD_" ((d.methodsOf c).map fun r => ((d.methodAt r).title, (d.methodAt r).sig))
 let fs := memberNames "FIELD_" ((d.fieldsOf c).map fun r => ((d.fieldAt r).title, (d.fieldAt r).sig))
 let padded := e.members ++ List.replicate (i + 1 - e.members.length) ([], [])
 { classes := union e.classes [className c.title]
   members := padded.modify i fun (m, f) => (union m ms, union f fs) }

end Exports

def exportAll : Query Unit := do
 let d <- file
 let cs <- look classDefs
 modify fun s => { s with
  exports := cs.zipIdx.foldl (fun e (c, i) => e.addClass d i c) s.exports }

def setClass (d : File) : File :=
 d.adjust .classDefs fun
  | .classDefs off xs => .classDefs off (xs.setIfInBounds i c)
  | other => other

def alter (f : File -> File) : Query Unit := modify fun s => { s with file := f s.file }

def hook (idx : Int) (text : String) : Query Unit := alter fun d => { d with renamed := (idx, text) :: d.renamed }

def setMethodIds (f : Array MethodId -> Array MethodId) (d : File) : File :=
 d.adjust .methodIds fun
  | .methodIds off xs => .methodIds off (f xs)
  | other => other

def setFieldIds (f : Array FieldId -> Array FieldId) (d : File) : File :=
 d.adjust .fieldIds fun
  | .fieldIds off xs => .fieldIds off (f xs)
  | other => other

def reloadMethodIds : Query Unit := do
 let ys <- look fun d => do (<- d.methodIds).mapM d.loadMethodId
 alter (setMethodIds fun _ => ys)

def reloadMethod : Query Unit := do
 let m <- look fun d => d.loadMethod (d.methodAt r)
 alter fun d => d.modifyMethod r fun _ => m

def reloadField (r : FieldRef) : Query Unit := do
 let f <- look fun d => d.loadField (d.fieldAt r)
 alter fun d => d.modifyField r fun _ => f

/-- Look up again what goes with a class. -/
def refresh : Query Unit := do
 reloadMethodIds
 let d <- file
 (d.methodsOf c).forM reloadMethod
 (d.fieldsOf c).forM reloadField
 let d <- file
 modify fun s => { s with exports := s.exports.addClass d i c }

def renameClass (name new : String) : Query Unit := do
 let cs <- look classDefs
 let some i := cs.findIdx? (·.name = some name) | throw .noSuchMember
 let c := cs.getD i default
 hook (<- look (·.typeRef c.classIdx)) new
 let exported := Exports.className c.title
 if !(<- get).exports.classes.contains exported then throw .noPart
 modify fun s => { s with exports := { s.exports with classes := s.exports.classes.erase exported } }
 let (c, d) <- look (·.loadClassDef c)
 alter fun _ => setClass i c d
 refresh i c

def ownerIndex? (classIdx : Nat) : Query (Option Nat) := look fun d => do
 let .classDefs _ xs <- d.managed .classDefs | return none
 return xs.findIdx? (·.classIdx = classIdx)

def swapExport (lead old new : String) (names : List String) : List String :=
 let was := lead ++ nameIdentifier old
 if names.contains was then Exports.union (names.erase was) [lead ++ nameIdentifier new] else names

def modifyExport (f : List String × List String -> List String × List String) : Query Unit :=
 modify fun s => { s with exports := { s.exports with members := s.exports.members.modify i f } }

/-- Rename what is listed with its owner and the string of its name; then it is looked up again. -/
def renameListed (listed : Option (Nat × Nat)) (export' : List String × List String -> List String × List String)
 (again : Query Unit) (new : String) : Query Unit := do
 let some (owner, nameIdx) := listed | throw .noPart
 hook nameIdx new
 if let some i <- ownerIndex? owner then modifyExport i export'
 again

def renameMethod (new : String) : Query Unit := do
 let m := (<- file).methodAt r
 let listed := (<- look methodIds)[m.idx]?
 renameListed (listed.map fun id => (id.classIdx, id.nameIdx)) (fun (ms, fs) => (swapExport "METHOD_" m.title new ms, fs))
  (do
   alter (setMethodIds (·.setIfInBounds m.idx (<- look (·.loadMethodId (listed.getD default)))))
   reloadMethod r) new

def renameField (r : FieldRef) (new : String) : Query Unit := do
 let f := (<- file).fieldAt r
 let listed := (<- look fieldIds)[f.idx]?
 renameListed (listed.map fun id => (id.classIdx, id.nameIdx)) (fun (ms, fs) => (ms, swapExport "FIELD_" f.title new fs))
  (do
   alter (setFieldIds (·.setIfInBounds f.idx (<- look (·.loadFieldId (listed.getD default)))))
   reloadField r) new

end DexLens.Inspect
