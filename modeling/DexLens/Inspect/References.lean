import DexLens.Inspect.Marks
import DexLens.Risk.Build

/-! # Cross references

Which methods create objects of a class, call a method and are called by it.
-/

namespace DexLens.Inspect

open CallGraph Dex Refs Risk

variable (g : Map) (r : MRef) (i : Nat) (refs : Refs)

def spotMethod? (s : Spot) : Query (Option MRef) := method? (s.method.cls ++ s.method.name ++ s.method.desc)

def Refs.none : Refs := ⟨[], []⟩

def Refs.add (d : File) (r : MRef) (places : List (Option Nat)) : Refs :=
 let name := methodIdentifier (d.methodAt r)
 ⟨refs.items ++ [(r, places)], if refs.names.contains name then refs.names else refs.names ++ [name]⟩

def setClassReferences : Query Unit :=
 modify fun s => { s with classReferences := (i, refs) :: s.classReferences.filter (·.1 != i) }

def setMethodReferences (refs : Refs × Refs) : Query Unit :=
 modify fun s => { s with methodRefs := (r, refs) :: s.methodRefs.filter (·.1 != r) }

def referClass (name : String) : Query Unit := do
 let d <- file
 match g.spots.findIdx? (·.key == name) with
 | .none => pure ()
 | some n =>
  setClassReferences i .none
  let _ <- (g.creations.succs n).foldlM (fun refs m => do
   let s := g.spots.getD m default
   match <- spotMethod? s with
   | .none => throw .noPart
   | some r =>
    let refs := refs.add d r ((s.uses.lookup n).getD [])
    setClassReferences i refs
    return refs) none

def neighbours (ns : List Nat) (places : Nat -> Spot -> List (Option Nat)) : Query Refs := do
 let d <- file
 ns.foldlM (fun refs m => do
  let s := g.spots.getD m default
  match <- spotMethod? s with
  | .none => return refs
  | some r => return refs.add d r (places m s)) none

def referMethod : Query Unit := do
 let m := (<- file).methodAt r
 setMethodReferences r (.none, .none)
 match g.spots.findIdx? (·.key == m.owner ++ " " ++ m.title ++ " " ++ m.sig) with
 | .none => pure ()
 | some n =>
  if !g.calls.nodes.contains n then throw .unknownName
  let into <- neighbours g (g.calls.preds n) fun _ s => (s.uses.lookup n).getD []
  setMethodReferences r (into, .none)
  let self := g.spots.getD n default
  setMethodReferences r (into, <- neighbours g (g.calls.succs n) fun v _ => (self.uses.lookup v).getD [])

def crossReference (parts : Option Components) : Query Unit := do
 attach
 let g <- Map.ofFile parts
 let cs <- look File.classDefs
 cs.zipIdx.forM fun (c, i) => do
  referClass g i c.title
  ((<- file).methodsOf c).forM (referMethod g)

end DexLens.Inspect
