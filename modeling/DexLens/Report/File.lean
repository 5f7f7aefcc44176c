import DexLens.AccessFlags
import DexLens.Dex.Members
import DexLens.Json.Basic

/-! # Values in reports

Tuples become lists. What is missing becomes nothing, and what failed keeps its place.
-/

namespace DexLens.Report

open Json

class Reply (α : Type) where
 json : α -> Json

export Reply (json)

/-- The items of a tuple. -/
class Row (α : Type) where
 row : α -> List Json

variable {α β : Type}

instance : Reply Json := ⟨id⟩
instance : Reply Nat := ⟨nat⟩
instance : Reply Int := ⟨int⟩
instance : Reply String := ⟨str⟩
instance : Reply Bool := ⟨bool⟩
instance [Reply α] : Reply (Option α) := ⟨opt json⟩
instance [Reply α] : Reply (List α) := ⟨ofList json⟩
instance [Reply α] : Reply (Res α) := ⟨fun r => ofRes (r.map json)⟩
instance (priority := 500) [Reply α] : Row α := ⟨([json ·])⟩
instance [Reply α] [Row β] : Row (α × β) := ⟨fun (a, b) => json a :: Row.row b⟩
instance [Reply α] [Row β] : Reply (α × β) := ⟨fun x => arr (Row.row x)⟩
scoped instance [Reply α] (a : α) : CoeT α a Json := ⟨json a⟩

def table (xs : List (String × Json)) : Json := .obj [("d", xs)]

/-- The answers to a row of requests. A failure is the answer to its own request only. -/
def answers {σ : Type} (reply : Json -> ExceptT Fault (StateM σ) Json) (start : σ) (requests : List Json) : Json :=
 let all : StateM σ (List (Res Json)) := requests.mapM fun q => (reply q).run
 (all.run start).1

/-! # Files and their items in reports -/

open AccessFlags Dex

instance : Reply ProtoNames := ⟨fun
 | .unknown => .null
 | .parts p r => (p, r)
 | .whole s => s⟩

instance : Reply FieldSig := ⟨fun f => (f.cls, f.type, f.name)⟩

instance : Reply Sigs := ⟨fun m => (m.cls, m.name, m.proto)⟩

mutual

def value (v : EncodedValue) : Json := (v.tag, v.arg, blob v)

def blob : EncodedValue -> Json
 | .number _ raw => EncodedValue.decode raw
 | .string _ _ s | .type _ _ s => s
 | .field _ _ f => json f
 | .method _ _ m => json m
 | .array _ vs => values vs
 | .annotated _ t es => .obj [("type", t), ("size", es.length), ("elements", elements es)]
 | .byte _ raw => raw.toText
 | .null _ => .null
 | .truth _ b => b

def values : List EncodedValue -> List Json
 | [] => []
 | v :: vs => (v.tag, v.arg, blob v) :: values vs

def elements : List (Nat × EncodedValue) -> List Json
 | [] => []
 | (n, v) :: es => (n, json (v.tag, v.arg, blob v)) :: elements es

end

variable (d : File)

def method (r : MRef) : Json :=
 let m := d.methodAt r
 (m.cls, m.name, m.desc, textOrNumber m.flags, m.idx)

def field (r : FieldRef) : Json :=
 let f := d.fieldAt r
 (f.cls, f.name, f.type, textOrNumber f.flags, f.idx, f.init.map value)

mutual

def classTree : ClassTree -> Json
 | .node name [] => name
 | .node name (c :: cs) => table [(name, classTree c :: classTrees cs)]

def classTrees : List ClassTree -> List Json
 | [] => []
 | t :: ts => classTree t :: classTrees ts

end

def hierarchy : Res Json := do
 match <- Hierarchy.tree d with
 | .node name ts => return table [(name, classTrees ts)]

def lookup (what : String) (idx : Int) (d : File) : Res Json := do
 match what with
 | "string" => return <- d.string idx
 | "raw_string" => return <- d.rawString idx
 | "type" => return <- d.type idx
 | "proto" => return <- d.proto idx
 | "field" => return <- d.fieldSigs idx
 | "method" => return <- d.methodSigs idx
 | "method_ref" => return <- d.methodRef idx
 | "field_ref" => return <- d.fieldRef idx
 | "type_ref" => return <- d.typeRef idx
 | "type_list" =>
  if idx < 0 then
   let _ <- d.typeLists
   return .null
  else return (<- d.typeListAt idx.toNat).1
 | "next_offset" => return d.nextOffset idx
 | _ => throw .noKey

end DexLens.Report
