import DexLens.Text.Basic

/-! # Markup

A document is an element that holds text or further elements. Names belong to name spaces.
-/

namespace DexLens.Markup

open String

variable (label : String) (kvs : List (String × String)) (s : String)

/-- A name in a name space; the empty space holds the plain names. -/
structure Name where
 space : String := ""
 base : String
 deriving DecidableEq, Inhabited

instance : Coe String Name := ⟨fun s => { base := s }⟩

structure Element where
 name : Name
 attrs : List (Name × String) := []
 text : String := ""
 kids : List Element := []
 deriving Inhabited

namespace Element

variable (e : Element) (e c : Element) (n : Name)

def get? (name : String) : Option String := e.attrs.lookup { base := name }

def set (name value : String) : Element :=
 if (e.get? name).isSome then
  { e with attrs := e.attrs.map fun p => if p.1 = { base := name } then (p.1, value) else p }
 else { e with attrs := e.attrs ++ [({ base := name }, value)] }

def push : Element := { e with kids := e.kids ++ [c] }

def pushFront : Element := { e with kids := c :: e.kids }

def findAll : List Element := e.kids.filter (·.name = n)

def find? : Option Element := e.kids.find? (·.name = n)

def findPath? (a b : Name) : Option Element := (e.findAll a).findSome? (·.find? b)

end Element

def element (name : Name) (attrs : List (String × String)) : Element :=
 { name, attrs := attrs.map fun (k, v) => ({ base := k }, v) }

mutual

def spaces (seen : List String) : Element -> List String
 | ⟨n, _, _, cs⟩ => spacesOf (if n.space = "" || seen.contains n.space then seen else seen ++ [n.space]) cs

def spacesOf (seen : List String) : List Element -> List String
 | [] => seen
 | c :: cs => spacesOf (spaces seen c) cs

end

def escape : String :=
 s.foldl (fun acc c =>
  if c = '&' then acc ++ "&amp;" else if c = '<' then acc ++ "&lt;" else if c = '>' then acc ++ "&gt;"
  else acc.push c) ""

def escapeValue : String :=
 (escape s).foldl (fun acc c =>
  if c = '"' then acc ++ "&quot;" else if c = '\r' then acc ++ "&#13;" else if c = '\n' then acc ++ "&#10;"
  else if c = '\t' then acc ++ "&#09;" else acc.push c) ""

def tag : String := "<" ++ label ++ join (kvs.map fun (k, v) => " " ++ k ++ "=\"" ++ v ++ "\"")

/-- An element with nothing inside, on a line of its own. -/
def line : String := tag label kvs ++ "/>\n"

/-- An element around lines. -/
def block (lines : String) : String := tag label kvs ++ ">\n" ++ lines ++ "</" ++ label ++ ">\n"

def newline (level : Nat) : String := "\n" ++ ofList (.replicate (2 * level) ' ')

def qualified (spaces : List String) (n : Name) : String :=
 if n.space = "" then n.base else "ns" ++ toString (spaces.idxOf n.space) ++ ":" ++ n.base

def attributes (spaces : List String) (attrs : List (Name × String)) : String :=
 join (attrs.map fun (k, v) => " " ++ qualified spaces k ++ "=\"" ++ escapeValue v ++ "\"")

mutual

/-- `pretty` puts every element on a line of its own; `declared` stands before its attributes. -/
def write (spaces : List String) (pretty : Bool) (level : Nat) (declared : String) : Element -> String
 | ⟨n, attrs, text, cs⟩ =>
  let name := qualified spaces n
  let front := "<" ++ name ++ declared ++ attributes spaces attrs
  match cs with
  | [] => if text = "" then front ++ " />" else front ++ ">" ++ escape text ++ "</" ++ name ++ ">"
  | cs =>
   front ++ ">" ++ (if pretty then "" else escape text) ++ writeAll spaces pretty (level + 1) cs ++
    (if pretty then newline level else "") ++ "</" ++ name ++ ">"

def writeAll (spaces : List String) (pretty : Bool) (level : Nat) : List Element -> String
 | [] => ""
 | c :: cs => (if pretty then newline level else "") ++ write spaces pretty level "" c ++ writeAll spaces pretty level cs

end

def render (pretty : Bool) (e : Element) : String :=
 let spaces := spaces [] e
 let declared := join (spaces.mapIdx (" xmlns:ns" ++ toString · ++ "=\"" ++ escapeValue · ++ "\""))
 write spaces pretty 0 declared e ++ if pretty && !e.kids.isEmpty then "\n" else ""

def numbered (limit : Nat) (s : String) : String :=
 s.foldl (fun acc c => if c.toNat < limit then acc.push c else acc ++ "&#" ++ toString c.toNat ++ ";") ""

end DexLens.Markup
