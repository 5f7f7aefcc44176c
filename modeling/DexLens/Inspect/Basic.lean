import DexLens.Analysis.Usage
import DexLens.Dex.Save

/-! # Inspecting a file

A file with what was found out about it so far. Some answers are remembered even when the file changes later.
-/

namespace DexLens.Inspect

open Analysis Dex File

variable {α : Type} (idx : Nat)

structure Needs where
 (calls fields : List (String × String))

structure Exports where
 classes : List String
 /-- Per class the names of its methods and of its fields. -/
 members : List (List String × List String)
 deriving Inhabited

/-- The places of a field: methods that read it and methods that write it, with offsets. -/
structure FieldTraffic where
 (reads writes : List (MRef × List Nat))
 names : List String

/-- The methods that refer to something, with the places; a place without an offset is unknown. -/
structure Refs where
 items : List (MRef × List (Option Nat))
 names : List String

structure Inspection where
 file : File
 needs : Needs
 light : Bool
 survey : Option Survey
 attached : Bool
 classNames : Option (List String)
 methodsByKey : Option (List (String × MRef))
 methodsByIndex : Option (List (Nat × MRef))
 exports : Exports
 traffic : List (FieldRef × FieldTraffic)
 classReferences : List (Nat × Refs)
 methodRefs : List (MRef × Refs × Refs)

def Inspection.start (file : File) (needs : Needs) (light : Bool) : Inspection :=
 ⟨file, needs, light, none, false, none, none, none, default, [], [], []⟩

/-- A question about a file. What was found out before a failure is kept. -/
abbrev Query := ExceptT Fault (StateM Inspection)

def Query.of : Res α -> Query α
 | .ok a => return a
 | .error f => throw f

def look (f : File -> Res α) : Query α := do .of (f (<- get).file)

def file : Query File := return (<- get).file

def change (m : FileM α) : Query α := do
 let s <- get
 let (r, d) := m.run.run s.file
 set { s with file := d }
 .of r

def classNames : Query (List String) := do
 match (<- get).classNames with
 | some ns => return ns
 | none =>
  let ns := (<- look classDefs).map ClassDef.title
  modify fun s => { s with classNames := ns }
  return ns

def method? (key : String) : Query (Option MRef) := do
 let table <- match (<- get).methodsByKey with
  | some t => pure t
  | none => do
   let d <- file
   let t := (<- look methods).map fun r => ((d.methodAt r).key, r)
   modify fun s => { s with methodsByKey := t }
   pure t
 return (table.reverse.find? (·.1 == key)).map (·.2)

def method (cls name desc : String) : Query MRef := do
 match <- method? (cls ++ name ++ desc) with
 | some r => return r
 | none => throw .noSuchMember

def methodAt? : Query (Option MRef) := do
 let table <- match (<- get).methodsByIndex with
  | some t => pure t
  | none => do
   let d <- file
   let t := (<- look methods).map fun r => ((d.methodAt r).idx, r)
   modify fun s => { s with methodsByIndex := t }
   pure t
 return (table.reverse.find? (·.1 == idx)).map (·.2)

def survey : Query Survey := do
 match (<- get).survey with
 | some v => return v
 | none =>
  let v <- if (<- get).light then pure .lightweight else look Survey.full
  modify fun s => { s with survey := v }
  return v

/-- A light survey fills its tables now; when that fails, they stay as they are then. -/
def usage : Query Usage := do
 let v <- survey
 if v.resolved then return v.usage
 let (v, fault) := v.fill (<- file)
 modify fun s => { s with survey := v }
 match fault with
 | some e => throw e
 | none => return v.usage

def flow (r : MRef) : Query Flow := do
 let v <- survey
 if v.light then look (Flow.ofMethod · r)
 else
  match v.flows.lookup r with
  | some f => return f
  | none => throw .noKey

def names : Query (String × String × String) := do
 let (c, n, p) <- look (·.methodRef idx)
 return (shown c, shown n, p)

end DexLens.Inspect
