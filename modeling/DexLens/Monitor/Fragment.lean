import DexLens.Fault
import DexLens.Text.Basic

/-! # Names and stack frames as the phone reports them -/

namespace DexLens.Monitor

open String Text

def descriptorOfName (name : String) : Option String :=
 if name.isEmpty then none else replaceChar ("L" ++ name) '.' "/"

def frameParts (frame : String) : List String := (split ',' frame).map strip

def compactDescriptor (desc : String) : String := replaceChar desc ' ' ""

/-! # Messages from the log

A message stands in a log line behind a marker, whole or as a numbered fragment. The fragments of an id are
collected until its final one arrives.
-/

def marker : String := "!SECCON!:"

inductive LogLine where
 | other
 | whole (text : String)
 | part (id number : Int) (text : String)
 | final (id number : Int) (text : String)
 deriving DecidableEq

def numbered (cs : List Char) : Res (Int × List Char) := do
 match cutList? [':'] cs with
 | some (n, rest) => return (<- .opt .badVal (int? (ofList n)), stripList rest)
 | none =>
  let _ <- .opt .badVal (int? (ofList cs))
  throw .beyond

/-- Read a log line. A fragment is written `id<N>:p<j>:<text>`, the final one with `f`. -/
def LogLine.parse (line : String) : Res LogLine := do
 match cutList? marker.toList line.toList with
 | none => return .other
 | some (_, rest) =>
  match stripList rest with
  | [] => throw .beyond
  | '\x7b' :: cs => return .whole (ofList ('\x7b' :: cs))
  | msg =>
   let (id, body) <- numbered (msg.drop 2)
   match body with
   | [] => throw .beyond
   | 'p' :: more => let (n, text) <- numbered more; return .part id n (ofList text)
   | 'f' :: more => let (n, text) <- numbered more; return .final id n (ofList text)
   | _ => return .other

/-- Fragments that wait, in the order in which the first of each id arrived. -/
abbrev Pending := List (Int × List String)

namespace Pending

variable (id : Int) (pending : Pending)

def parts : List String :=
 match pending.find? (·.1 == id) with
 | some (_, ps) => ps
 | none => []

def add (text : String) (pending : Pending) : Pending :=
 if pending.any (·.1 == id) then pending.map fun (i, ps) => if i == id then (i, ps ++ [text]) else (i, ps)
 else pending ++ [(id, [text])]

def remove : Pending := pending.filter (·.1 != id)

def accept : LogLine -> Option String × Pending
 | .other => (none, pending)
 | .whole text => (some text, pending)
 | .part id _ text => (none, pending.add id text)
 | .final id _ text => (join (pending.parts id ++ [text]), pending.remove id)

def receive (line : String) : Res (Option String) × Pending :=
 match LogLine.parse line with
 | .ok said => let (msg, next) := pending.accept said; (.ok msg, next)
 | .error cause => (.error cause, pending)

end Pending

end DexLens.Monitor
