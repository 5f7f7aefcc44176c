import DexLens.Analysis.Flow

/-! # What methods use

For every field, string and class the places where methods use it, in the order of first use.
-/

namespace DexLens.Analysis

open Code Dex File

inductive Access where
 | read | write
 deriving DecidableEq

def Access.letter : Access -> String
 | .read => "R"
 | .write => "W"

/-- The places of a thing: by the number of the method, access and offset. -/
abbrev Places := List (Nat × List (Access × Nat))

def Places.push (p : Places) (method : Nat) (a : Access) (off : Nat) : Places :=
 if p.any (·.1 == method) then p.map fun q => if q.1 == method then (q.1, q.2 ++ [(a, off)]) else q
 else p ++ [(method, [(a, off)])]

def Places.flat (p : Places) : List (Access × Nat × Nat) := p.flatMap fun (m, xs) => xs.map fun (a, off) => (a, off, m)

structure FieldUse where
 (cls type name : String)
 places : Places

def FieldUse.key (f : FieldUse) : String := f.cls ++ f.type ++ f.name

structure StringUse where
 text : String
 places : Places

/-- A call of a method, or the creation of an object when there is no target. -/
structure Path where
 (offset src : Nat)
 dst : Option Nat

def Path.kind (p : Path) : Nat := if p.dst.isSome then 1 else 0

/-- The calls into a class and the creations of its objects. -/
structure Package where
 name : String
 (creations calls : List Path)

/-- What a method uses is also kept by the method: calls and creations class by class, and the keys of fields and
    strings. -/
structure Usage where
 fields : List FieldUse
 strings : List StringUse
 pkgs : List Package
 byMethod : List (MRef × List (String × List Path))
 (fieldKeys stringKeys : List (Nat × List String))

instance : Inhabited Usage := (⟨[], [], [], [], [], []⟩)

namespace Usage

variable (u : Usage)

def upsert {α β : Type} [BEq α] (xs : List (α × β)) (key : α) (old : β -> β) (new : β) : List (α × β) :=
 if xs.any (·.1 == key) then xs.map fun p => if p.1 == key then (p.1, old p.2) else p
 else xs ++ [(key, new)]

section

variable (text : String) (d : File) (r : MRef) (method off : Nat) (cls type name : String)

def noteKey (t : List (Nat × List String)) (method : Nat) (key : String) : List (Nat × List String) :=
 upsert t method (fun ks => if ks.contains key then ks else ks ++ [key]) [key]

def addField : Usage :=
 let f := ⟨cls, type, name, []⟩
 if u.fields.any (·.key == f.key) then u else { u with fields := u.fields ++ [f] }

def useField (method : Nat) (a : Access) (off : Nat) : Usage :=
 let u := u.addField cls type name
 let key := cls ++ type ++ name
 { u with
  fields := u.fields.map fun f => if f.key == key then { f with places := f.places.push method a off } else f
  fieldKeys := noteKey u.fieldKeys method key }

def useString : Usage :=
 let strings :=
  if u.strings.any (·.text == text) then u.strings.map fun s =>
   if s.text == text then { s with places := s.places.push method .read off } else s
  else u.strings ++ [⟨text, [(method, [(.read, off)])]⟩]
 { u with strings, stringKeys := noteKey u.stringKeys method text }

def usePath (cls : String) (r : MRef) (p : Path) : Usage :=
 let extend k :=
  if p.dst.isSome then { k with calls := k.calls ++ [p] } else { k with creations := k.creations ++ [p] }
 let pkgs :=
  if u.pkgs.any (·.name == cls) then u.pkgs.map fun k => if k.name == cls then extend k else k
  else u.pkgs ++ [extend ⟨cls, [], []⟩]
 let byMethod := upsert u.byMethod r (upsert · cls (· ++ [p]) [p]) [(cls, [p])]
 { u with pkgs, byMethod }

def visit (u : Usage) (off : Nat) (ins : Instr) : Usage :=
 let op := ins.op
 let method := (d.methodAt r).idx
 match ins.index? with
 | none => u
 | some idx =>
  if 0x52 ≤ op && op ≤ 0x6d then
   match d.fieldSigs idx with
   | .ok ⟨some cls, some type, some name⟩ =>
    let a := if (0x59 ≤ op && op ≤ 0x5f) || 0x67 ≤ op then Access.write else .read
    u.useField cls type name method a off
   | _ => u
  else if (0x6e ≤ op && op ≤ 0x72) || (0x74 ≤ op && op ≤ 0x78) then
   match d.methodSigs idx with
   | .ok names => u.usePath (shown names.cls) r ⟨off, method, some idx⟩
   | _ => u
  else if op = 0x22 then
   match d.type idx with
   | .ok t => u.usePath t r ⟨off, method, none⟩
   | _ => u
  else if op = 0x1a || op = 0x1b then
   match d.rawString idx with
   | .ok s => u.useString s method off
   | _ => u
  else u

def visitMethod (u : Usage) (r : MRef) : Usage :=
 match d.codeOf? r with
 | some c => (Flow.located 0 c.instrs).foldl (fun u (off, ins) => visit d r u off ins) u
 | none => u

/-- The entries of a table whose keys are noted under the number of a method, with its places. -/
def usedBy {β : Type} (key : β -> String) (places : β -> Places) (xs : List β) (noted : List (Nat × List String))
 (method : Nat) : List (β × List (Access × Nat)) :=
 ((noted.lookup method).getD []).filterMap fun k => (xs.find? (key · == k)).map fun x =>
  (x, (places x).flat.filterMap fun (a, off, m) => if m = method then (a, off) else none)

def stringsOf : List (StringUse × List (Access × Nat)) := usedBy StringUse.text StringUse.places u.strings u.stringKeys method

def fieldsOf : List (FieldUse × List (Access × Nat)) := usedBy FieldUse.key FieldUse.places u.fields u.fieldKeys method

def packagesOf : List (String × List Path) := (u.byMethod.lookup r).getD []

end

def field? (cls name type : String) : Option FieldUse := u.fields.find? (·.key == cls ++ type ++ name)

end Usage

/-- A light analysis keeps no flows, and fills the tables when they are first asked for. -/
structure Survey where
 (light resolved : Bool)
 flows : List (MRef × Flow)
 usage : Usage

namespace Survey

/-- Visit methods one after the other. A failure ends the visit and keeps the tables so far. -/
def visitAll (d : File) : List MRef -> Usage -> List (MRef × Flow) -> Usage × List (MRef × Flow) × Option Fault
 | [], u, fs => (u, fs.reverse, none)
 | r :: rs, u, fs =>
  match Flow.ofMethod d r with
  | .error e => (u, fs.reverse, e)
  | .ok f => visitAll d rs (u.visitMethod d r) ((r, f) :: fs)

def full (d : File) : Res Survey := do
 let known := d.mentionedFields.foldl (fun u f =>
  u.addField (shown f.names.cls) (shown f.names.type) (shown f.names.name)) default
 let (u, fs, fault) := visitAll d (<- d.methods) known []
 match fault with
 | some e => throw e
 | none => return ⟨false, true, fs, u⟩

def lightweight : Survey := ⟨true, false, [], default⟩

/-- Fill the tables. A failure leaves them with what was visited before, and they are not filled again. -/
def fill (d : File) (v : Survey) : Survey × Option Fault :=
 match d.methods with
 | .error e => ({ v with resolved := true }, e)
 | .ok rs =>
  let (u, _, fault) := visitAll d rs v.usage []
  ({ v with resolved := true, usage := u }, fault)

end Survey

end DexLens.Analysis
