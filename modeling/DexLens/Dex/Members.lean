import DexLens.Dex.Loader

/-! # Classes and their members

A member is named by the class data that holds it and its place there.
-/

namespace DexLens.Dex

open File

structure MRef where
 (data slot : Nat)
 deriving DecidableEq, Inhabited

structure FieldRef where
 (data slot : Nat)
 deriving DecidableEq

namespace DexMethod

variable (m : DexMethod)

def title : String := shown m.name
def owner : String := shown m.cls
def sig : String := shown m.desc

def key : String := m.owner ++ m.title ++ m.sig

end DexMethod

namespace DexField

variable (f : DexField)

def title : String := shown f.name
def owner : String := shown f.cls
def sig : String := shown f.type

end DexField

def ClassDef.title (c : ClassDef) : String := shown c.name
def ClassDef.parent (c : ClassDef) : String := shown c.superName

namespace File

variable (d : File) (r : MRef) (c : ClassDef) (cls name : String)

def classDefs (d : File) : Res (List ClassDef) :=
 match d.firstOf? .classDefs with
 | some (.classDefs _ xs) => .ok xs.toList
 | _ => .error .noPart

def dataAt (i : Nat) : ClassData :=
 match d.classData with
 | .ok xs => xs.getD i default
 | .error _ => default

def methodAt : DexMethod := (d.dataAt r.data).methods.getD r.slot default

def fieldAt (r : FieldRef) : DexField := (d.dataAt r.data).fields.getD r.slot default

def methodsOf : List MRef :=
 match c.data with
 | some i => (List.range (d.dataAt i).methods.size).map fun s => ⟨i, s⟩
 | none => []

def fieldsOf : List FieldRef :=
 match c.data with
 | some i => (List.range (d.dataAt i).fields.size).map fun s => ⟨i, s⟩
 | none => []

def methods : Res (List MRef) := return (<- d.classDefs).flatMap d.methodsOf

def fields : Res (List FieldRef) := return (<- d.classDefs).flatMap d.fieldsOf

def mentionedFields : List FieldId :=
 match d.firstOf? .fieldIds with
 | some (.fieldIds _ xs) => xs.toList
 | _ => []

def classNamed? : Res (Option ClassDef) := return (<- d.classDefs).find? (·.name = name)

def fieldNamed? (type : String) : Res (Option FieldRef) := do
 let owners := (<- d.classDefs).filter (·.name = some cls)
 return (owners.flatMap d.fieldsOf).find? fun r =>
  let f := d.fieldAt r
  f.name = name && f.type = type

def methodsNamed : Res (List MRef) := do
 let owners := (<- d.classDefs).filter (·.name = some cls)
 return (owners.flatMap d.methodsOf).filter fun r => (d.methodAt r).name = name

def methodsOwnedBy : Res (List MRef) := return (<- d.methods).filter fun r => (d.methodAt r).cls = cls

def fieldsOwnedBy : Res (List FieldRef) := return (<- d.fields).filter fun r => (d.fieldAt r).cls = cls

def codeOf? : Option CodeItem := (d.methodAt r).code.bind (d.codeItems[·]?)

def codeOf : Res CodeItem := .opt .noPart (d.codeOf? r)

def strings : Res (List String) :=
 match d.firstOf? .stringData with
 | some (.stringData xs) => .ok (xs.toList.map StringData.text)
 | _ => if d.lead.mapOff = 0 then .error .noPart else .error .badKind

def modifyMethod (f : DexMethod -> DexMethod) : File :=
 d.modifyData r.data fun c => { c with methods := c.methods.modify r.slot f }

def modifyField (r : FieldRef) (f : DexField -> DexField) : File :=
 d.modifyData r.data fun c => { c with fields := c.fields.modify r.slot f }

def modifyCode (f : CodeItem -> CodeItem) : File :=
 match (d.methodAt r).code with
 | some i => d.adjust .code fun
  | .code off xs => .code off (xs.modify i f)
  | other => other
 | none => d

end File

/-! # The tree of classes

Superclasses that the file does not define hang below a common root.
-/

inductive ClassTree where
 | node (name : String) (kids : List ClassTree)

namespace Hierarchy

def pairs (cs : List ClassDef) : List (String × String) := cs.map fun c => (Text.inside 1 1 c.title, Text.inside 1 1 c.parent)

def roots (ps : List (String × String)) : List String :=
 (ps.map (·.2)).filter (fun s => !ps.any (·.1 == s)) |>.eraseDups

def below (ps : List (String × String)) : Nat -> String -> Res ClassTree
 | 0, _ => .error .tooDeep
 | fuel + 1, name => do
  let kids := (ps.filter (·.2 == name)).map (·.1)
  return .node name (<- kids.mapM (below ps fuel))

def tree (d : File) : Res ClassTree := do
 let ps := pairs (<- d.classDefs)
 return .node "Root" (<- (roots ps).mapM (below ps (ps.length + 2)))

mutual

def lines (depth : Nat) : ClassTree -> List String
 | .node name kids =>
  (if depth = 0 then name else Text.times depth "\t" ++ " " ++ name) :: linesAll (depth + 1) kids

def linesAll (depth : Nat) : List ClassTree -> List String
 | [] => []
 | t :: ts => lines depth t ++ linesAll depth ts

end

def listing (d : File) : Res (List String) := do
 match <- tree d with
 | .node _ kids => return linesAll 0 kids

end Hierarchy

end DexLens.Dex
