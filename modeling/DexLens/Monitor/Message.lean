import DexLens.Json.Parser
import DexLens.Monitor.Fragment
import DexLens.Monitor.Session

/-! # Messages of the phone -/

namespace DexLens.Monitor

open CallGraph Step

abbrev Phone := List (String × Option Bytes)

def wholeNumber : Json -> Res Int
 | .int i => .ok i
 | .bool b => .ok (if b then 1 else 0)
 | .float x =>
  if x.isNaN then .error .badVal
  else .opt .overflow (Decimal.truncate? x)
 | .str s => .opt .badVal (Text.int? s)
 | _ => .error .badKind

def framesOf : Json -> Res (List Frame)
 | .arr xs => xs.mapM fun
  | .str s => .ok (frameParts s)
  | _ => .error .noPart
 | .str s => .ok (s.toList.map (frameParts ·.toString))
 | .obj ms => .ok (ms.map fun (k, _) => frameParts k)
 | _ => .error .badKind

def memberOf (j : Json) (k : String) : Json := (j.get? k).getD .null

def targetOf (j : Json) : Sig := ⟨(memberOf j "class").shown, (memberOf j "method").shown, (memberOf j "proto").shown⟩

def baseName (path : String) : String := (Text.split '/' path).getLast?.getD ""

def fetch (phone : Phone) (src : String) (stack : List Frame) : Step Unit := do
 let some blob := phone.lookup src | return
 let name := baseName src
 match blob with
 | some bytes =>
  if name.isEmpty then throw .noSuchFile
  modify fun s => { s with disk := put s.disk name bytes }
 | none => pure ()
 let some bytes := (<- get).disk.lookup name | return
 loaded name bytes stack

def receive (phone : Phone) (msg : Json) : Step Unit := do
 let .obj _ := msg | throw .noPart
 pure ()
 let operation <- ofRes (wholeNumber (memberOf msg "operation"))
 if operation = 1 then instantiated (targetOf msg) (<- ofRes (framesOf (memberOf msg "stack")))
 else if operation = 2 then invoked (targetOf msg) (<- ofRes (framesOf (memberOf msg "stack")))
 else if operation = 3 then fetch phone (memberOf msg "source").shown (<- ofRes (framesOf (memberOf msg "stack")))

end DexLens.Monitor
