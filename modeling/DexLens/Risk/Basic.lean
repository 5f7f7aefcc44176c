import DexLens.CallGraph.Basic
import DexLens.Json.Basic

/-! # Risk maps

Calls and creations inside a file, with marks for the parts of the application and for code that is loaded.
-/

namespace DexLens.Risk

open CallGraph

structure Spot where
 key : String
 method : Sig
 label : String
 /-- Does the node stand for code, or is it only a mark? -/
 real : Bool
 risks : List String
 attributes : List (String × Json)
 /-- The nodes that this one refers to, with the places; a place without an offset is unknown. -/
 uses : List (Nat × List (Option Nat))
 deriving Inhabited

structure Map where
 spots : List Spot
 calls : Digraph
 /-- From a class to the methods that create its objects. -/
 creations : Digraph
 entries : List Nat

def Map.empty : Map := ⟨[], .empty, .empty, []⟩

def freshAttributes : List (String × Json) :=
 [("type", "normal"), ("color", .null), ("permissions", .int 0), ("permissions_level", .int (-1)),
  ("permissions_details", .arr []), ("dynamic_code", "false")]

def assign (as : List (String × Json)) (k : String) (v : Json) : List (String × Json) :=
 Analysis.Usage.upsert as k (fun _ => v) v

namespace Spot

variable (s : Spot) (k : String) (v : Json)

def fresh (key : String) (m : Sig) (label : String) (real : Bool) : Spot :=
 ⟨key, m, label, real, [], freshAttributes, []⟩

def value : Json := (s.attributes.lookup k).getD .null

def set : Spot := { s with attributes := assign s.attributes k v }

def rgb (r g b : Nat) : Json := .arr [r, g, b]

def levels : List (String × Int × Json) :=
 [("dangerous", 3, rgb 255 0 0), ("signatureOrSystem", 2, rgb 255 63 63), ("signature", 1, rgb 255 132 132),
  ("normal", 0, rgb 255 181 181)]

/-- Is a value above a number? Nothing is below all numbers, and what is no number is above them. -/
def above (n : Int) : Json -> Bool
 | .null => false
 | .bool b => n < if b then 1 else 0
 | .int i => n < i
 | .float x => Float.ofInt n < x
 | _ => true

def addend : Json -> Res Int
 | .int i => .ok i
 | .bool b => .ok (if b then 1 else 0)
 | _ => .error .badKind

def raiseLevel : Res Spot := do
 let .int old := s.value "permissions_level" | return s
 if !above old v then return s
 match v with
 | .str name =>
  match levels.lookup name with
  | some (rank, colour) =>
   return ((s.set "permissions_level" (.int rank)).set "permissions_level_name" v).set "color" colour
  | none => throw .noKey
 | .arr _ | .obj _ => throw .badKind
 | _ => throw .noKey

def same : Json -> Json -> Bool
 | .str a, .str b | .int a, .int b | .bool a, .bool b => a == b
 | .null, .null => true
 | .float a, .float b => a == b
 | _, _ => false

/-- Permissions are counted, their level only rises, and their details are collected; other attributes are replaced. -/
def mark : Res Spot :=
 match k with
 | "permissions" => do
  let old <- addend (s.value k)
  return s.set k (.int (old + (<- addend v)))
 | "permissions_level" => s.raiseLevel v
 | "permissions_details" =>
  match v with
  | .arr _ | .obj _ => .error .badKind
  | _ =>
   let old := (s.value k).arr?.getD []
   .ok (if old.any (same v) then s else s.set k (.arr (old ++ [v])))
 | _ => .ok (s.set k v)

end Spot

end DexLens.Risk
