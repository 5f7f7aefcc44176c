import DexLens.Inspect.Basic
import DexLens.Source.Method

/-! # Source text of classes -/

namespace DexLens.Source

open Dex Inspect Query Text

structure ClassText where
 (package name : String)
 /-- The first line as far as it does not depend on other classes. -/
 heading : String
 (parent interfaces : Option String)
 (fields methods : List String)
 deriving Inhabited

inductive Nested where
 | node (self : ClassText) (inner : List (String × Nested))

namespace ClassText

variable (c : ClassText)

def nameParts (title : String) : String × String :=
 let parts := split '/' title
 if !Text.startsWith title "/" && title.toList.contains '/' then
  let front := "/".intercalate parts.dropLast
  (replaceChar (inside 1 0 front) '/' ".", inside 0 1 (parts.getLastD ""))
 else ("", inside 0 1 title)

def latest {κ α : Type} [BEq κ] (xs : List (κ × α)) : List (κ × α) :=
 xs.foldl (fun t (k, a) => revise t k (fun _ => a) a) []

def fieldLine (f : DexField) : Res String := do
 let access := " ".intercalate (AccessFlags.names fieldModifiers f.flags)
 return "    " ++ access ++ " " ++ (<- typeName? f.type) ++ " " ++ f.title ++ ";\n"

def methodText (r : MRef) : Query String := do
 let d <- file
 let _ <- of (if let some c := d.codeOf? r then c.decoded.map fun _ => () else .ok ())
 let fl <- flow r
 of do (<- Method.ofFile d r fl).text

def methodsByNumber (d : File) (c : ClassDef) : List MRef :=
 (latest ((d.methodsOf c).map fun r => ((d.methodAt r).idx, r))).map (·.2)

def outline (c : ClassDef) : ClassText :=
 let (package, name) := nameParts c.title
 let access := " ".intercalate (AccessFlags.names classModifiers c.flags)
 ⟨package, name, access ++ " class " ++ name, c.superName, c.interfaces, [], []⟩

def ofClass (c : ClassDef) : Query ClassText := do
 let d <- file
 let methods <- (methodsByNumber d c).mapM methodText
 let fields <- of ((latest ((d.fieldsOf c).map fun r => let f := d.fieldAt r; (f.title, f))).mapM (fieldLine ·.2))
 return { outline c with fields, methods }

def dotted (s : String) : String := replaceChar (inside 1 1 s) '/' "."

def prototype : String :=
 let parent := match c.parent.map dotted with
  | some p => if (split '.' p).getLastD "" == "Object" then "" else " extends " ++ p
  | none => ""
 let interfaces := match c.interfaces with
  | some s => " implements " ++ ", ".intercalate ((split ' ' (inside 1 1 s)).map dotted)
  | none => ""
 c.heading ++ parent ++ interfaces

/-- `inner` stands between fields and methods. A class inside another one has no package line. -/
def text (isInner : Bool) (inner : List String) : String :=
 let package := if !isInner && c.package != "" then s!"package {c.package};\n" else ""
 s!"{package}{c.prototype} \x7b\n{String.join c.fields}{String.join inner}{String.join c.methods}\x7d\n"

def printed : String :=
 let package := if c.package != "" then [s!"package {c.package};\n"] else []
 let parts := package ++ [c.prototype ++ " \x7b\n"] ++ c.fields ++ c.methods.filter (· != "") ++ ["\x7d\n"]
 .join (parts.map (· ++ "\n"))

end ClassText

namespace Nested

mutual

def text (isInner : Bool) : Nested -> String
 | node c inner => c.text isInner (innerTexts inner)

def innerTexts : List (String × Nested) -> List String
 | [] => []
 | (_, n) :: ns => n.text true :: innerTexts ns

end

mutual

def shown : Nested -> String
 | node c inner =>
  match inner with
  | [] => s!"Class({c.name})"
  | n :: ns => s!"Class({c.name}) -- Subclasses(\x7b" ++ ", ".intercalate (innerShown (n :: ns)) ++ "\x7d)"

def innerShown : List (String × Nested) -> List String
 | [] => []
 | (k, n) :: ns => s!"{Text.quoted k}: {n.shown}" :: innerShown ns

end

end Nested

end DexLens.Source

/-! # Classes inside classes

A class belongs inside the one whose name stands before its last dollar sign, if there is one.
-/

namespace DexLens.Source

structure Shelf where
 texts : Array ClassText
 /-- Per class those inside it, by their short names. -/
 inner : Array (List (String × Nat))
 free : List (String × Nat)
 /-- Where classes that belong into a class that has been put away are to go. -/
 stored : List (String × Nat)

namespace Shelf

variable (s : Shelf)

def nameParts? (name : String) : Option (String × String) := do
 let last :: front :: more := (Text.split '$' name).reverse | none
 some ("$".intercalate (front :: more).reverse ++ ";", Text.inside 0 1 last)

def place (name short : String) (i parent home : Nat) : Shelf :=
 { s with
  texts := s.texts.modify i fun c => { c with name := short }
  inner := s.inner.modify parent fun xs => ClassText.latest (xs ++ [(short, i)])
  free := s.free.filter (·.1 != name)
  stored := s.stored ++ [(name, home)] }

def placeOne (st : Shelf × Bool) (name : String) : Shelf × Bool :=
 let (s, changed) := st
 if let (some (outer, short), some i) := (nameParts? name, s.free.lookup name) then
  if let some parent := s.free.lookup outer then (s.place name short i parent i, true)
  else
   if let some parent := s.stored.lookup outer then (s.place name short i parent parent, true) else (s, changed)
 else (s, changed)

def settle : Nat -> Shelf -> Shelf
 | 0, s => s
 | fuel + 1, s =>
  let (s, changed) := (s.free.map (·.1)).foldl placeOne (s, false)
  if changed then settle fuel s else s

def ofClasses (cs : List (String × ClassText)) : Shelf :=
 let cs := ClassText.latest cs
 settle (cs.length + 1)
  ⟨(cs.map (·.2)).toArray, (cs.map fun _ => []).toArray, cs.zipIdx.map fun ((name, _), i) => (name, i), []⟩

def nested (s : Shelf) : Nat -> Nat -> Nested
 | 0, i => .node (s.texts.getD i default) []
 | depth + 1, i => .node (s.texts.getD i default) ((s.inner.getD i []).map fun (k, j) => (k, s.nested depth j))

def outermost : List (String × Nested) := s.free.map fun (name, i) => (name, s.nested s.texts.size i)

end Shelf

end DexLens.Source
