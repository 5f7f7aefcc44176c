import DexLens.Fault
import DexLens.Text.Basic

/-! # Type descriptors and the names made of them

A descriptor is a letter for a primitive type, `L…;` for a class or `[` before the descriptor of the elements.
-/

namespace DexLens.Descriptor

open Text

variable (desc : String) (name : String)

def primitive? : Option String :=
 [("V", "void"), ("Z", "boolean"), ("B", "byte"), ("S", "short"), ("C", "char"), ("I", "int"), ("J", "long"),
  ("F", "float"), ("D", "double"), ("STR", "String"), ("StringBuilder", "String")].lookup desc

def brackets (size : Option String) : String := "[" ++ size.getD "" ++ "]"

/-- The name of a type in a listing; `size` is shown in the outermost brackets of an array. -/
def listingName (size : Option String) (desc : List Char) : Res String :=
 let text := String.ofList desc
 let short := if startsWith text "java.lang" then replace text "java.lang." "" else text
 match primitive? (stripFront "java.lang" short) with
 | some name => .ok name
 | none =>
  match desc with
  | '[' :: rest => (listingName none rest).map (· ++ brackets size)
  | _ =>
   match short.toList with
   | [] => .error .beyond
   | 'L' :: _ => .ok (replaceChar (inside 1 1 short) '/' ".")
   | _ => .ok short

/-- The name of a type in decompiled source; the package of the basic classes is left out. -/
def sourceName (size : Option String) (desc : List Char) : Res String :=
 let text := String.ofList desc
 match primitive? text with
 | some name => .ok name
 | none =>
  match desc with
  | [] => .error .beyond
  | 'L' :: _ =>
   let body := inside 1 1 text
   let body := if startsWith text "Ljava/lang" then stripFront "java/lang/" body else body
   .ok (replaceChar body '/' ".")
  | '[' :: rest => (sourceName none rest).map (· ++ brackets size)
  | _ => .ok text

def regs : Nat := if desc == "J" || desc == "D" then 2 else 1

/-- The types between the parentheses of a method descriptor. -/
def parameters : List String := words (inside 1 0 ((split ')' desc).headD ""))

def result? : Option String := (split ')' desc)[1]?

def listed : Res (List String × String) := return (parameters desc, <- .opt .beyond (result? desc))

def ofDottedName : String := "L" ++ replaceChar name '.' "/" ++ ";"

def classIdentifier : String := replaceChar (replaceChar (inside 0 1 desc) '/' "_") '$' "_"

def nameIdentifier : String := replaceChar (replaceChar (replaceChar name '<' "") '>' "") '$' "_"

def identifier : String :=
 .ofList ((desc.toList.filter fun c => !([';', '[', '(', ')', ' ', '$'].contains c)).map fun c =>
  if c = '/' then '_' else c)

/-- Which registers hold what, and the type of the result. -/
def parameterLines (lead gap : String) (regs : Int) : Res (String × String) := do
 let params := parameters desc
 let first := regs - params.length
 let body <-
  if params.isEmpty then pure s!"{lead}local registers: v0...v{regs - 1}\n"
  else do
   let lines <- params.zipIdx.mapM fun (p, j) =>
    return s!"{lead}- v{first + (j : Int)}:{gap}{<- listingName none p.toList}\n"
   pure (s!"{lead}- local registers: v0...v{first - 1}\n" ++ .join lines)
 let result <- .opt .beyond (result? desc)
 return (body, s!"{lead}- return:{gap}{<- listingName none result.toList}\n")

/-- The header of a method listing. -/
def parameterListing (regs : Int) (desc : String) : Res String := do
 let (body, result) <- parameterLines desc "# " "" regs
 return "# Parameters:\n" ++ body ++ "#\n" ++ result ++ "\n"

end DexLens.Descriptor
