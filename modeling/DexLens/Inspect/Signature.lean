import DexLens.Inspect.Search
import DexLens.Json.Basic

/-! # Signatures of methods

A signature describes the blocks, exception handlers or instructions of a method. Levels are written with colons
between them.
-/

namespace DexLens.Inspect.Signature

open Analysis Dex Query

variable (r : MRef) (choice : Json) (name : String) (p : Path) (style : Nat) (grammar : String) (options : Json) (r : MRef)

inductive Value where
 | text (s : String)
 | list (xs : List String)

abbrev Marks := List (Nat × String)

def accessDigit : Access -> String
 | .read => "0"
 | .write => "1"

/-- Does a name start with one of some texts? Anything but a text is an error once it is reached. -/
def startsWithOne (name : String) : List Json -> Res Bool
 | [] => .ok false
 | .str s :: rest => if Text.startsWith name s then .ok true else startsWithOne name rest
 | _ :: _ => .error .badKind

def items : Json -> Res (List Json)
 | .arr xs => .ok xs
 | .str s => .ok (s.toList.map (.str ·.toString))
 | .obj ms => .ok (ms.map (.str ·.1))
 | _ => .error .badKind

def chosen : Res Bool := do startsWithOne name (<- items choice)

def stringMarks : Query Marks := do
 let m := ((<- file).methodAt r).idx
 return ((<- usage).stringsOf m).flatMap fun (_, ps) => ps.map fun (_, off) => (off, "S")

def fieldMarks : Query Marks := do
 let m := ((<- file).methodAt r).idx
 return ((<- usage).fieldsOf m).flatMap fun (_, ps) => ps.map fun (a, off) => (off, "F" ++ accessDigit a)

def packageMarks (mark : String -> Path -> Query String) (r : MRef) : Query Marks := do
 let lists <- ((<- usage).packagesOf r).mapM fun (name, ps) => ps.mapM fun p => return (p.offset, <- mark name p)
 return lists.flatten

def kindMark (_ : String) (p : Path) : Query String := return s!"P{p.kind}"

def detailMark : Query String := do
 let some t := p.dst | return s!"P{p.kind}" ++ "\x7b" ++ name ++ "\x7d"
 let (c, n, d) <- names t
 return s!"P{p.kind}" ++ "\x7b" ++ c ++ n ++ d ++ "\x7d"

/-- Paths into chosen classes in detail; calls inside the file have a kind of their own. -/
def includedMark : Query String := do
 let inside <- of (chosen choice name)
 match p.dst with
 | some t =>
  let (c, _, _) <- names t
  if (<- classNames).contains c then return "P2"
  if inside then detailMark name p
  else kindMark name p
 | none => if inside then detailMark name p else kindMark name p

def excludedMark : Query String := do if <- of (chosen choice name) then kindMark name p else detailMark name p

def endMark (op : Int) : Option String :=
 if 0x0e ≤ op && op ≤ 0x11 then "R"
 else if 0x32 ≤ op && op ≤ 0x3d then "I"
 else if 0x28 ≤ op && op ≤ 0x2c then "G"
 else none

variable (choice : Json) (r : MRef)

def marks : Query Marks := do
 let strings <- stringMarks r
 if style = 1 && !strings.isEmpty then throw .badKind
 let fields <- fieldMarks r
 let pkgs <- packageMarks (match style with
  | 2 => includedMark choice
  | 3 => excludedMark choice
  | _ => kindMark) r
 return strings ++ fields ++ pkgs

def markOrder (a b : Nat × String) : Bool := (compare a.1 b.1).then (compare a.2 b.2) != .gt

def blockText : Query String := do
 let f <- flow r
 let d <- file
 let some c := d.codeOf? r | return ""
 let all := Flow.located 0 (<- of c.decoded)
 let texts <- f.blocks.toList.mapM fun b => do
  let ms <- marks style choice r
  let ending := if let some s := (b.code all).getLast?.bind (fun (_, i) => endMark i.op) then [(b.stop - 1, s)]
   else []
  let shown := ((ending ++ ms).mergeSort markOrder).filter fun m => b.start ≤ m.1 && m.1 < b.stop
  return "B[" ++ String.join (shown.map (·.2)) ++ "]"
 return .join texts

def handlerText : Query String := do
 let d <- file
 let some c := d.codeOf? r | return ""
 if c.triesSize = 0 then return ""
 let some hs := c.handlers | return ""
 let types <- (hs.entries.flatMap (·.typed)).mapM fun (t, _) => look (·.type t)
 return .join types

def instructionText (t : Code.Tables) (ins : Code.Instr) : Res String := do
 let name <- if 0x28 ≤ ins.op && ins.op ≤ 0x2a then pure "goto" else ins.name
 let literal := (ins.literal?.map toString).getD ""
 if ins.op = 0x1a || ins.op = 0x1b then
  let some s <- (ins.loaded t).1 | throw .badKind
  return name ++ literal ++ s
 else return name ++ literal

def codeText : Query String := do
 let d <- file
 let some c := d.codeOf? r | return ""
 of do return .join (<- (<- c.decoded).mapM (instructionText d.codeTables))

def sequences : Query (List String) := do
 let f <- flow r
 let some c := (<- file).codeOf? r | return []
 of do
 let all := Flow.located 0 (<- c.decoded)
 let texts <- f.blocks.toList.mapM fun b => do
  let names <- (b.code all).mapM fun (_, i) => i.name
  return if names.length > 5 then .join names else ""
 return texts.filter (!·.isEmpty)

def entry (j : Json) (key : String) : Res Json := do
 let .obj _ := j | .error .badKind
 .opt .noKey (j.get? key)

def styleOf : Json -> Res Nat
 | .int i => if 0 ≤ i && i ≤ 3 then .ok i.toNat else .error .noKey
 | .bool b => .ok (if b then 1 else 0)
 | .float x => if x == 0 then .ok 0 else if x == 1 then .ok 1 else if x == 2 then .ok 2
  else if x == 3 then .ok 3 else .error .noKey
 | .arr _ | .obj _ => .error .badKind
 | _ => .error .noKey

def choiceOf (level : String) : Res Json :=
 match do entry (<- entry options level) "arguments" with
 | .error .noKey => .ok (.arr [])
 | o => o

def level : String -> Query Value
 | "L0" => do
  let style <- of do styleOf (<- entry (<- entry options "L0") "type")
  return .text (<- blockText style (<- of (choiceOf options "L0")) r)
 | "L1" => do if (<- stringMarks r).isEmpty then return .text "" else throw .noPart
 | "L2" => return .text (<- handlerText r)
 | "L3" => return .text ""
 | "L4" => do
  let choice <- of (choiceOf options "L4")
  return .text (.join ((<- packageMarks (includedMark choice) r).map (·.2)))
 | "hex" => return .text (<- codeText r)
 | "sequencebb" => return .list (<- sequences r)
 | _ => throw .noKey

def ofGrammar : Query (List (String × Value)) := do
 let _ <- usage
 let _ <- flow r
 (Text.split ':' grammar).mapM fun l => return (l, <- level options r l)

def predefined : List (String × Json) :=
 let style n (choice : List String) := .obj [("type", .nat n), ("arguments", .ofStrings choice)]
 [("L0_0", style 0 []), ("L0_1", style 1 []), ("L0_2", style 2 ["Landroid"]), ("L0_3", style 2 ["Ljava"]),
  ("L0_4", style 2 ["Landroid", "Ljava"]), ("L0_5", style 3 ["Landroid"]), ("L0_6", style 3 ["Ljava"])]

/-- A name with an underscore stands for the first level with the options behind that name. -/
def resolve (names : String) : Res (String × Json) := do
 let parts <- (Text.split ':' names).mapM fun n => do
  if n.toList.contains '_' then return ("L0", some (<- .opt .noKey (predefined.lookup n)))
  return (n, none)
 let options := if let some o := (parts.filterMap (·.2)).getLast? then [("L0", o)] else []
 return (":".intercalate (parts.map (·.1)), .obj options)

/-- The signature of a method: by predefined names, or by levels with options when there are none. -/
def ofMethod (names grammar : String) (options : Json) : Query (List (String × Value)) := do
 if names.isEmpty then ofGrammar grammar options r
 else
  let _ <- usage
  let (grammar, options) <- of (resolve names)
  ofGrammar grammar options r

end DexLens.Inspect.Signature
