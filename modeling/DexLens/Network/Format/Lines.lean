import DexLens.Network.Format.Literal

/-! # Files

What is read comes from a file, named or given, or from any other collection of lines.
-/

namespace DexLens.Network

namespace Files

variable (path : Value) (e : Encoding) (bs : Bytes)

def blob (name : String) : Work Bytes := do opt .noSuchFile ((<- get).files.lookup name)

def store (name : String) (bs : Bytes) : Work Unit :=
 modify fun lab => { lab with
  files := (name, bs) :: lab.files.filter (·.1 != name)
  stored := lab.stored.filter (·.1 != name) }

def split : List Bytes :=
 let (lines, last) := bs.foldl (fun (acc : Array Bytes × Array UInt8) b =>
  let line := acc.2.push b
  if b = 10 then (acc.1.push line.toList, #[]) else (acc.1, line)) (#[], #[])
 lines.toList ++ if last.isEmpty then [] else [last.toList]

def lines : Work Vals := do
 let .text name := path | .items path
 return (split (<- blob name)).map .bytes

def whole : Work Value := do
 match path with
 | .text name => return .bytes (<- blob name)
 | .input s binary => return if binary then .bytes s.toUTF8.toList else .text s
 | .output => return .bytes []
 | _ => throw .noPart

inductive Encoding where
 | unicode
 | ascii
 | latin

def encoding (v : Value) : Res Encoding := do
 let .text s := v | .error .badKind
 let name := .ofList ((s.toList.map .toLower).filter (·.isAlphanum))
 if name = "utf8" then .ok .unicode
 else if name = "ascii" || name = "usascii" then .ok .ascii
 else if name = "latin1" || name = "iso88591" then .ok .latin
 else .error .noSuchMember

def encode (s : String) : Res Bytes :=
 let upTo n := if s.toList.all (·.toNat < n) then .ok (s.toList.map (.ofNat ·.toNat)) else .error .unencodable
 match e with
 | .unicode => .ok s.toUTF8.toList
 | .ascii => upTo 128
 | .latin => upTo 256

def decode : Res String :=
 match e with
 | .unicode => opt .undecodable (String.fromUTF8? ⟨bs.toArray⟩)
 | .ascii => if bs.all (· < 128) then .ok bs.toText else .error .undecodable
 | .latin => .ok bs.toText

def decoded : Value -> Res Value
 | .bytes b => return .text (<- decode e b)
 | _ => .error .noPart

def write : Work Unit := do
 match path with
 | .text name => store name bs
 | .output => modify fun lab => { lab with written := lab.written ++ bs }
 | .input _ true => return
 | .input _ false => throw .badKind
 | _ => throw .noPart

def opening (path : Nat) (run : Args -> Work Unit) (a : Args) : Work Value := do
 if let .text name := a path then store name []
 run a
 return .null

end Files

end DexLens.Network

/-! # Graphs as lines of text

A line for each node, for each neighbour or for each edge.
-/

namespace DexLens.Network

open Edit Files Text Work

namespace Lines

variable (g : Graph) (delim : Value) (path enc : Value)

def whole (s : String) : Res Int := do (<- (Value.text s).toInt).asInt

def delimiter : Value -> Res String
 | .text s => .ok s
 | _ => .error .badKind

/-! ## Writing -/

def eachRow (lines : String -> String -> Table Bundle -> List String) : Res (List String) := do
 if g.succ.isEmpty then return []
 let d <- delimiter delim
 return (g.succ.foldl (fun acc (s, row) =>
  (acc.1 ++ lines d s.shown (row.filter (g.directed || !acc.2.contains ·.1)), s :: acc.2)) ([], [])).1

def adjacency : Res (List String) := eachRow g delim fun d s row =>
 [if d = "" then "" else d.intercalate (s :: row.flatMap fun (t, b) => b.records.map fun _ => t.shown)]

def adjacencyLines : Res (List String) := eachRow g delim fun d s row =>
 let es := row.flatMap fun (t, b) => b.records.map fun r => t.shown ++ d ++ (Value.dict r.items).shown
 (s ++ d ++ toString es.length) :: es

def edgeParts (e : Edge) (data : Value) : Work Vals := do
 match data with
 | .bool true => return [e.src, e.dst, .dict e.items]
 | .bool false => return [e.src, e.dst]
 | _ =>
  let keys <- (<- items data).mapM (·.key)
  let found := (keys.map e.items.get?).takeWhile Option.isSome
  return [e.src, e.dst] ++ found.filterMap id

def edges (delim data : Value) : Work (List String) :=
 g.edges.mapM fun e => do
  let parts <- edgeParts e data
  match delim with
  | .text d => return d.intercalate (parts.map Value.shown)
  | .bytes _ => throw .badKind
  | _ => throw .noPart

def writeLines (lines : List String) : Work Unit := do
 if lines.isEmpty then return
 let e <- encoding enc
 let (bs, fault) := lines.foldl (fun (acc : Array UInt8 × Option Fault) l =>
  match acc.2, encode e (l ++ "\n") with
  | none, .ok bs => (acc.1 ++ bs, none)
  | none, .error f => (acc.1, some f)
  | some _, _ => acc) (#[], none)
 write path bs.toList
 let some f := fault | return
 throw f

def header (comments : Value) : Res (List String) := match comments with
 | .text c => return [c, c ++ " GMT", c ++ " " ++ (<- g.name.filling)]
 | _ => .error .badKind

/-! ## Reading -/

section

variable (f : Value) (line s : String) (a : Args) (lines : Vals)

def withoutComment (line comments : Value) : Res String :=
 match line, comments with
 | .text l, .text c =>
  if c = "" then .ok ""
  else
   if let some (front, _) := cut? l c then .ok front else .ok l
 | .text _, _ | .bytes _, _ => .error .badKind
 | _, _ => .error .noPart

def parts (delim : Value) : Res (List String) :=
 let s := strip line
 match delim with
 | .null => .ok (words s)
 | .text "" => .error .badVal
 | .text d => .ok (splitOnText d s)
 | _ => .error .badKind

def convert : Work Value := do
 if f.isNull then return s
 (<- get).apply f [s]

def convertOr : Work Value := blaming .badKind (convert f s)

/-- The parameters of readers, after the first one. -/
def reading : String := "comments=# delimiter? create_using? nodetype?"

def readEach (read : Value -> List String -> Work Unit) : Work Value := do
 let ref <- prepare (a 3)
 for line in lines do
  let l <- withoutComment line (a 1)
  if l != "" then read ref (<- parts l (a 2))
 return ref

def readAdjacency : Work Value := readEach a lines fun ref ws => do
 let u :: vs := ws | throw .beyond
 let u <- convertOr (a 4) u
 edit ref (addNode u)
 edit ref (addEdgesFrom ((<- vs.mapM (convert (a 4))).map fun v => .tuple [u, v]))

def isStream : Value -> Bool
 | .stream _ | .input _ _ => true
 | _ => false

def edgeItems (edgeType : Value) (data : String) : Work Value := do
 if !edgeType.isNull then return .dict [("weight", <- convertOr edgeType data)]
 return (Literal.parse? data).getD (.dict [])

def nextLine (comments : Value) : Vals -> Res (String × Vals)
 | [] => .error .badKind
 | line :: rest => do
  let l <- withoutComment line comments
  if l = "" then nextLine comments rest else return (l, rest)

def readLines (src : Vals) (shared : Bool) : Work Value := do
 let ref <- prepare (a 3)
 let mut rest := src
 for _ in [0:src.length] do
  let line :: more := rest | break
  rest := more
  let l <- withoutComment line (a 1)
  if l = "" then continue
  let (u, n) <- blaming .badKind do
   let [u, n] <- parts l (a 2) | throw .badKind
   return (u, <- whole n)
  let u <- convertOr (a 4) u
  edit ref (addNode u)
  for _ in [0:n.toNat] do
   if !shared then throw .badKind
   let (l, more) <- nextLine (a 1) rest
   rest := more
   let v :: data <- parts l (a 2) | continue
   edit ref (addEdge u (<- convertOr (a 4) v) (<- edgeItems (a 5) (.join data)))
 return ref

def edgeData (d : List String) (data : Value) : Work Items := do
 match d, data with
 | [], _ | _, .bool false => return []
 | _, .bool true =>
  blaming .badKind do return .ofList (<- (<- opt .badKind (Literal.parse? (" ".intercalate d))).entries)
 | _, _ =>
  let n <- opt .badKind data.size?
  if n != d.length then throw .beyond
  let kinds <- (<- items data).mapM (·.two)
  let ps <- (kinds.zip d).mapM fun ((k, f), s) => do
   let v <- if f.isNull then throw .badKind else convertOr f s
   return (<- k.key, v)
  return .ofList ps

def readEdges (data : Value) : Work Value := readEach a lines fun ref ws => do
 if let u :: v :: d := ws then
  let u <- convertOr (a 4) u
  let v <- convertOr (a 4) v
  let items <- edgeData d data
  edit ref (addEdge u v (.dict items))

end

def fileLines : Work Vals := do
 let e <- encoding enc
 (<- lines path).mapM (decoded e ·)

def texts (ls : List String) : Value := .list (ls.map .text)

def writeCommands : List Cmd := [
 .of "generate_adjlist" "G delimiter=_" fun g a => return texts (<- adjacency g (a 1)),
 .of "generate_multiline_adjlist" "G delimiter=_" fun g a => return texts (<- adjacencyLines g (a 1)),
 .of "generate_edgelist" "G delimiter=_ data=True" fun g a => return texts (<- edges g (a 1) (a 2)),
 ⟨"write_adjlist", "G path comments=# delimiter=_ encoding=utf-8", opening 1 fun a => do
  let g <- a.graph
  writeLines (a 1) (a 4) ((<- header g (a 2)) ++ (<- adjacency g (a 3)))⟩,
 ⟨"write_multiline_adjlist", "G path delimiter=_ comments=# encoding=utf-8", opening 1 fun a => do
  let g <- a.graph
  writeLines (a 1) (a 4) ((<- header g (a 3)) ++ (<- adjacencyLines g (a 2)))⟩,
 ⟨"write_edgelist", "G path comments=# delimiter=_ data=True encoding=utf-8", opening 1 fun a => do
  writeLines (a 1) (a 5) (<- edges (<- a.graph) (a 3) (a 4))⟩,
 ⟨"write_weighted_edgelist", "G path comments=# delimiter=_ encoding=utf-8", opening 1 fun a => do
  writeLines (a 1) (a 4) (<- edges (<- a.graph) (a 3) (.tuple ["weight"]))⟩]

def readCommands : List Cmd := [
 ⟨"parse_adjlist", s!"lines {reading}", fun a => do readAdjacency a (<- a.items 0)⟩,
 ⟨"read_adjlist", s!"path {reading} encoding=utf-8", fun a => do readAdjacency a (<- fileLines (a 0) (a 5))⟩,
 ⟨"parse_multiline_adjlist", s!"lines {reading} edgetype?", fun a => do
  readLines a (<- a.items 0) (isStream (a 0))⟩,
 ⟨"read_multiline_adjlist", s!"path {reading} edgetype? encoding=utf-8", fun a => do
  readLines a (<- fileLines (a 0) (a 6)) true⟩,
 ⟨"parse_edgelist", s!"lines {reading} data=True", fun a => do readEdges a (<- a.items 0) (a 5)⟩,
 ⟨"read_edgelist", s!"path {reading} data=True edgetype? encoding=utf-8", fun a => do
  readEdges a (<- fileLines (a 0) (a 7)) (a 5)⟩,
 ⟨"read_weighted_edgelist", s!"path {reading} encoding=utf-8", fun a => do
  readEdges a (<- fileLines (a 0) (a 5)) (.tuple [.tuple ["weight", .function "float"]])⟩]

def cmds : List Cmd := writeCommands ++ readCommands

end Lines

end DexLens.Network
