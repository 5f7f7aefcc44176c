import DexLens.Network.Format.Pajek
import DexLens.Text.Wrap

/-! # Graphs as nested lists of keys and values

A value is a number, a word, quoted text or a list again. A number sign begins a comment.
-/

namespace DexLens.Network.Gml

open Edit String

variable (cs : List Char) (word : String) (cs : List Char) (s : String) (v : Value) (g : Graph) (c : Char)

def gap (inComment : Bool) : List Char -> List Char
 | [] => []
 | c :: cs =>
  if inComment then gap (c != '\n') cs
  else if Pajek.isGap c then gap false cs
  else if c = '#' then gap true cs
  else c :: cs

def skipComments : Nat -> List Char -> List Char
 | 0, cs => cs
 | n + 1, cs =>
  if let '#' :: rest := cs.dropWhile Pajek.isGap then skipComments n (rest.dropWhile (· != '\n')) else cs

def isAlpha : Bool := 'a' ≤ c && c ≤ 'z' || 'A' ≤ c && c ≤ 'Z'

def isAlnum : Bool := isAlpha c || c.isDigit

def key? : Option (String × List Char) := do
 let c :: rest := gap false cs | none
 if isAlpha c then
  let (more, rest) := rest.span fun c => isAlnum c || c = '_'
  (ofList (c :: more), rest)
 else none

def real? : Option (Float × List Char) := do
 let (sign, rest) := Literal.sign cs
 let (whole, rest) := rest.span Char.isDigit
 if whole.isEmpty then none
 else
  let '.' :: rest := rest | none
  let (part, rest) := rest.span Char.isDigit
  let (exp, rest) := Literal.exponent (·.span Char.isDigit) rest
  return ((<- Decimal.parse? (ofList (sign ++ whole ++ ['.'] ++ part ++ exp))), rest)

def quoted? (acc : List Char) : List Char -> Option (String × List Char)
 | [] => none
 | '"' :: '"' :: cs => quoted? ('"' :: '"' :: acc) cs
 | '"' :: cs => (ofList acc.reverse, cs)
 | ['\\'] => none
 | '\\' :: c :: cs => if c = '\n' then none else quoted? (c :: '\\' :: acc) cs
 | c :: cs => if c = '\n' || c = '\r' then none else quoted? (c :: acc) cs

def atom : Res (Option (Value × List Char)) := do
 if let some (x, rest) := real? cs then return some (.float x, rest)
 else
  let (digits, rest) := cs.span fun c => c.isDigit || c = '-'
  if !digits.isEmpty then return some (<- (Value.text (ofList digits)).toInt, rest)
  let (word, rest) := cs.span isAlnum
  if !word.isEmpty then return some (.text (ofList word), rest)
  let '"' :: cs := cs | return none
  return (quoted? [] cs).map fun (s, rest) => (s, rest)

mutual

def pair : Nat -> List Char -> Res (Option (Value × List Char))
 | 0, _ => .ok none
 | n + 1, cs => do
  let some (k, rest) := key? cs | return none
  return (<- value n rest).map fun (v, rest) => (.list [.text k, v], rest)

def pairs : Nat -> List Char -> Res (Vals × List Char)
 | 0, cs => .ok ([], cs)
 | n + 1, cs => do
  let some (p, rest) <- pair n cs | return ([], cs)
  let (ps, rest) <- pairs n rest
  return (p :: ps, rest)

def value : Nat -> List Char -> Res (Option (Value × List Char))
 | 0, _ => .ok none
 | n + 1, cs => do
  let cs := gap false cs
  if let some found <- atom cs then return some found
  else do
   let '[' :: rest := cs | return none
   let (ps, rest) <- pairs n rest
   let ']' :: rest := gap false rest | return none
   return some (.list ps, rest)

end

def literal? : Option (List Char) :=
 let cs := gap false cs
 if word.toList.isPrefixOf cs then (cs.drop word.length) else none

def block : Res (Option (Value × List Char)) := do
 let some rest := (literal? word cs).bind (literal? "[") | return none
 let (ps, rest) <- pairs rest.length rest
 if ps.isEmpty then return none
 return (literal? "]" rest).map (.list [word, ps], ·)

def entries : Nat -> List Char -> Res (Vals × List Char)
 | 0, cs => .ok ([], cs)
 | n + 1, cs => do
  let more e (rest : List Char) := do
   let (es, rest) <- entries n rest
   return (e :: es, rest)
  if let some (e, rest) <- block "node" cs then more e rest
  else
   if let some (e, rest) <- block "edge" cs then more e rest
   else do
    let some (e, rest) <- pair cs.length cs | return ([], cs)
    more e rest

def preface : Vals × List Char :=
 match literal? word cs with
 | none => ([], cs)
 | some rest =>
  let (line, rest) := (skipComments rest.length rest).span (· != '\n')
  ([.list [word, ofList line]], rest)

def document : Res Vals := do
 let (creator, rest) := preface "Creator" (Text.expandTabs s).toList
 let (version, rest) := preface "Version" rest
 let some rest := (literal? "graph" rest).bind (literal? "[") | .error .badGrammar
 let (es, rest) <- entries rest.length rest
 opt .badGrammar ((literal? "]" rest).map fun _ => creator ++ version ++ es)

mutual

def table : Value -> Value
 | .list ps => .dict (Table.ofList (tables ps))
 | v => v

def tables : Vals -> Pairs
 | [] => []
 | .list [k, v] :: ps => (k, table v) :: tables ps
 | _ :: ps => tables ps

end

def tableOf : Items :=
 if let .dict d := table v then d else []

structure State where
 graph : Graph
 repeated : Bool := false

def addEntry (s : State) (e : Value) : Res State := do
 match e with
 | .list [.text "node", v] =>
  let d := tableOf v
  let n <- opt .noKey (d.get? "id")
  return { s with graph := <- result s.graph (addNode n (.dict d)) }
 | .list [.text "edge", v] =>
  let d := tableOf v
  let u <- opt .noKey (d.get? "source")
  let v <- opt .noKey (d.get? "target")
  let repeated := s.graph.hasEdge (<- u.key) (<- v.key)
  let items := (d.erase "source").erase "target"
  return { graph := <- result s.graph (addEdge u v (.dict items)), repeated := s.repeated || repeated }
 | .list [k, v] => return { s with graph := s.graph.setAttr k v }
 | _ => return s

def labelled (label : Option Value -> Res Value := opt .noKey) : Res (Pairs × Graph) := do
 let names <- g.nodes.mapM fun (n, r) => return (n, <- label (r.items.get? "label"))
 if names.isEmpty then .error .badVal
 names.forM fun (_, l) => discard l.key
 if (uniq (names.map (·.2))).length != g.order then
  fail "Failed to relabel nodes: duplicate node labels found. Use relabel=False."
 return (names, <- g.relabelled fun n => .ok (Table.getD names n n))

def parse (relabel : Bool) : Res Graph := do
 let es <- document s
 let directed := es.foldl (fun d e => if let .list [.text "directed", v] := e then v.same (.int 1) else d) false
 let s <- es.foldlM addEntry { graph := .new directed true : State }
 let g <- if s.repeated then pure s.graph else (Graph.new directed false).converted s.graph
 if relabel then return (<- labelled g).2 else return g

mutual

def item (indent : String) (k : Value) : Value -> String
 | .dict xs => s!"{k.shown} [ \n{itemLines indent xs}{indent}{indent}]"
 | .text s => s!"{k.shown} \"{s}\""
 | .bool b => k.shown ++ (if b then " 1" else " 0")
 | v => k.shown ++ " " ++ v.shown

def itemLines (indent : String) : Pairs -> String
 | [] => ""
 | (k, v) :: rest => s!"{indent}{indent}{indent}{item (indent ++ indent) k v}\n{itemLines indent rest}"

end

def isAmong (k : Value) (names : List String) : Bool := names.any (k.same ·)

def generate : Res (List String) := do
 let attrs := (g.attrs.items.filter (!isAmong ·.1 ["directed"])).map fun (k, v) => "  " ++ item "  " k v
 let inner (items : Items) (without : List String) : List String :=
  (items.filter (!isAmong ·.1 without)).map fun (k, v) => "    " ++ item "  " k v
 let ids : Table Value := g.nodes.zipIdx.map fun ((n, r), i) => (n, r.items.getD "id" (.nat i))
 let ns <- g.nodes.mapM fun (n, r) => do
  let label := match r.items.getD "label" n with
   | .text s => Value.text s!"\"{s}\""
   | v => v
  return ["  node [", "    id " ++ (<- (ids.getD n .null).filling), "    label " ++ (<- label.filling)]
   ++ inner r.items ["id", "label"] ++ ["  ]"]
 let es <- g.edges.mapM fun e =>
  return ["  edge [", "    source " ++ (<- (ids.getD e.src .null).filling),
   "    target " ++ (<- (ids.getD e.dst .null).filling)] ++ inner e.items ["source", "target"] ++ ["  ]"]
 return ["graph ["] ++ (if g.directed then ["  directed 1"] else []) ++ attrs ++ ns.flatten ++ es.flatten ++ ["]"]

def joined : Work String := do
 if let .text s := v then return s
 else
  let parts <- (<- .items v).mapM fun l => if let .text s := l then return s else throw .badKind
  return join parts

def cmds : List Cmd := [
 .of "generate_gml" "G" fun g _ => return Lines.texts (<- generate g),
 ⟨"write_gml", "G path", Files.opening 1 fun a => do Lines.writeLines (a 1) "latin-1" (<- generate (<- a.graph))⟩,
 ⟨"parse_gml", "lines relabel=True", fun a => do keep (<- parse (<- joined (a 0)) (a.truth 1))⟩,
 ⟨"read_gml", "path encoding=UTF-8 relabel=False", fun a => do
  keep (<- parse (join (<- Pajek.fileText (a 0) (a 1))) (a.truth 2))⟩]

end DexLens.Network.Gml
