import DexLens.Network.Format.Graph6

/-! # Graphs as numbered lists of nodes and edges -/

namespace DexLens.Network

open Decimal Files Graph Lines Text Value

namespace Pajek

variable (g : Graph) (s : String) (v : Value)

inductive Mode where
 | between
 | word
 | quoted (quote : Char)
 deriving DecidableEq

def isGap (c : Char) : Bool := c = ' ' || c = '\t' || c = '\r' || c = '\n'

def words : Res (List String) := go .between [] s.toList
where
 emit (m : Mode) (w : List Char) (rest : List String) : List String :=
  if m = .between then rest else .ofList w :: rest
 go (m : Mode) (w : List Char) : List Char -> Res (List String)
  | [] =>
   match m with
   | .quoted _ => .error .badVal
   | m => .ok (emit m w [])
  | '\\' :: cs =>
   match m, cs with
   | .quoted '\'', cs => go m (w ++ ['\\']) cs
   | _, [] => .error .badVal
   | .quoted q, c :: cs => go m (w ++ if c = '\\' || c = q then [c] else ['\\', c]) cs
   | _, c :: cs => go .word (w ++ [c]) cs
  | c :: cs =>
   match m with
   | .quoted q => if c = q then go .word w cs else go m (w ++ [c]) cs
   | .between =>
    if isGap c then go m w cs
    else if c = '\'' || c = '"' then go (.quoted c) [] cs
    else go .word [c] cs
   | .word =>
    if isGap c then return .ofList w :: (<- go .between [] cs)
    else if c = '\'' || c = '"' then go (.quoted c) w cs
    else go .word (w ++ [c]) cs

def word : String :=
 let s := v.shown
 if s.toList.contains ' ' then s!"\"{s}\"" else s

def generate : Res (List String) := do
 let (ns, ids) <- g.nodes.zipIdx.foldlM (fun (acc : List String × Table Value) ((n, r), i) => do
  let get k d : Value := r.items.getD (.text k) d
  let id <- (get "id" (.nat (i + 1))).toInt
  let front := [id, n, get "x" (.float 0), get "y" (.float 0), get "shape" "ellipse"].map word
  let back := r.items.flatMap fun (k, v) => [word k, word v]
  return (acc.1 ++ [" ".intercalate (front ++ back)], acc.2 ++ [(n, id)])) ([], [])
 let es := g.edges.map fun e =>
  let front := [ids.getD e.src .null, ids.getD e.dst .null, e.get "weight" (.float 1)].map word
  let back := (e.items.erase "weight").flatMap fun (k, v) => [word k, word v, k.shown, v.shown]
  " ".intercalate (front ++ back)
 return [s!"*vertices {g.order}"] ++ ns ++ [if g.directed then "*arcs" else "*edges"] ++ es

def node (ws : List String) : Res (Graph × Value × Value) := do
 let id :: label :: rest := ws | .error .badVal
 let place : Items :=
  if let [x, y, shape] := rest.take 3 then
   if let (some x, some y) := (parse? x, parse? y) then [("x", .float x), ("y", .float y), ("shape", .text shape)]
   else []
  else []
 let items := (Table.ofList (("id", .text id) :: place)).merge (Generate.couples ((rest.drop 3).map text))
 let g := g.addNode (.text label)
 let g := { g with next := g.next + 1, nodes := g.nodes.put label ⟨g.next, items⟩ }
 .ok (g, .text id, .text label)

def edge (labels : Option Items) (ws : List String) : Res Graph := do
 let u :: v :: rest := ws | return g
 let labels <- opt .unbound labels
 let label s : Value := labels.getD (.text s) s
 let weight := ((rest.head?.bind parse?).map (text "weight", float ·)).toList
 let items := Table.merge weight (Generate.couples ((rest.drop 1).map text))
 if ["self", "u", "v"].any (items.has ·) then .error .badKind
 let own := (items.erase "key").erase "attr_dict"
 let table := items.getD "attr_dict" .null
 Edit.result g (.addEdge (label u) (label v) table own (items.getD "key" .null))

structure State where
 graph : Graph := .new true true
 labels : Option Items := none
 lines : List String

def readNodes (s : State) (count : Nat) : Res State :=
 (List.range count).foldlM (fun s _ => do
  let l :: rest := s.lines | .error .exhausted
  let (g, id, label) <- node s.graph (<- words l)
  return { graph := g, lines := rest, labels := some ((s.labels.getD []).put id label) }) { s with labels := some [] }

def parse (lines : List String) : Res Graph := do
 let mut s : State := { lines }
 for _ in [0:lines.length] do
  let l :: rest := s.lines | break
  s := { s with lines := rest }
  let low := String.ofList (l.toList.map .toLower)
  if startsWith low "*network" then
   let [_, name] := Text.words l | pure ()
   s := { s with graph := s.graph.setName name }
  else if startsWith low "*vertices" then
   let [_, n] := Text.words l | .error .badVal
   s <- readNodes s (<- whole n).toNat
  else if startsWith low "*edges" || startsWith low "*arcs" then
   let g <- if startsWith low "*edge" then (new false true).converted s.graph
    else pure s.graph.toDirected
   s := { s with graph := <- s.lines.foldlM (fun g l => do edge g s.labels (<- words l)) g, lines := [] }
 return s.graph

def textLines : Work (List String) := do
 let .text s := v | (<- .items v).mapM (Graph6.text ·)
 return split '\n' s

def chomp : String := stripBack "\n" s

def fileText (path enc : Value) : Work (List String) := do (<- fileLines path enc).mapM (Graph6.text ·)

def cmds : List Cmd := [
 ⟨"readwrite.pajek.make_qstr", "t", word⟩,
 .of "generate_pajek" "G" fun g _ => return texts (<- generate g),
 ⟨"write_pajek", "G path encoding=UTF-8", opening 1 fun a => do
  writeLines (a 1) (a 2) (<- generate (<- a.graph))⟩,
 ⟨"parse_pajek", "lines", fun a => do keep (<- parse ((<- textLines (a 0)).map chomp))⟩,
 ⟨"read_pajek", "path encoding=UTF-8", fun a => do keep (<- parse ((<- fileText (a 0) (a 1)).map chomp))⟩]

end Pajek

namespace Leda

variable (ls : List String)

def next : Res (String × List String) := do
 let l :: rest := ls | .error .exhausted
 .ok (l, rest)

def nextInt : Res (Int × List String) := do
 let (l, rest) <- next ls
 return (<- whole l, rest)

def parse (lines : List String) : Res Graph := do
 let lines := (lines.filter fun l => !(startsWith l "#" || startsWith l "\n" || l = "")).map Pajek.chomp
 if lines.length < 3 then .error .exhausted
 let (direction, rest) <- nextInt (lines.drop 3)
 let (n, rest) <- nextInt rest
 let mut rest := rest
 let mut names := []
 for i in [0:n.toNat] do
  let (l, more) <- next rest
  rest := more
  let symbol := stripFront "|\x7b\x7d " (stripBack "|\x7b\x7d " (stripBack " \t\n\r\x0b\x0c" l))
  names := names ++ [((i : Int) + 1, if symbol = "" then toString (i + 1) else symbol)]
 let mut g := (new (direction = -1) false).addNodes (names.map (.text ·.2))
 let (m, more) <- nextInt rest
 rest := more
 for i in [0:m.toNat] do
  let [s, t, _, label] := (rest.head?.map words).getD [] | fail s!"Too few fields in LEDA.GRAPH edge {i + 1}"
  rest := rest.drop 1
  let at_ x := do opt .noKey ((names.lookup (<- whole x)).map .text)
  let u <- at_ s
  let v <- at_ t
  g := g.addEdge u v [("label", .text (inside 2 2 label))]
 return g

def cmds : List Cmd := [
 ⟨"parse_leda", "lines", fun a => do keep (<- parse (<- Pajek.textLines (a 0)))⟩,
 ⟨"read_leda", "path encoding=UTF-8", fun a => do keep (<- parse (<- Pajek.fileText (a 0) (a 1)))⟩]

end Leda

namespace P2g

def generate (g : Graph) : Res String := do
 let number n := toString (g.verts.findIdx (· == n))
 let rows <- g.verts.mapM fun n =>
  return (<- n.filling) ++ "\n" ++ .join ((g.nbrs n).map (number · ++ " ")) ++ "\n"
 return (<- g.name.filling) ++ "\n" ++ toString g.order ++ " " ++ toString g.size ++ "\n" ++ .join rows

def parse (lines : List String) : Res Graph := do
 let (name, rest) <- Leda.next lines
 let (sizes, rest) <- Leda.next rest
 let n <- if let [n, _] <- (words sizes).mapM whole then pure n else .error .badVal
 let start := ((new true true).setName (strip name)).setAttr "selfloops" true
 let (g, labels, rows, _) <- (List.range n.toNat).foldlM
  (fun (acc : Graph × Vals × Table String × List String) _ => do
   let (g, labels, rows, rest) := acc
   let (l, rest) <- Leda.next rest
   let (row, rest) <- Leda.next rest
   let v := text (strip l)
   return (g.ensure v, labels ++ [v], rows.put v row, rest)) (start, [], [], rest)
 g.verts.foldlM (fun g u => (words (rows.getD u "")).foldlM (fun g w => do
   let i <- whole w
   if i < 0 then .error .noKey
   return g.addEdge u (<- opt .noKey labels[i.toNat]?)) g) g

def cmds : List Cmd := [
 ⟨"readwrite.p2g.write_p2g", "G path encoding=utf-8", opening 1 fun a => do
  let s <- generate (<- a.graph)
  let bs <- encode (<- encoding (a 2)) s
  match a 1 with
  | .text _ => throw .badKind
  | path => write path bs⟩,
 ⟨"readwrite.p2g.read_p2g", "path encoding=utf-8", fun a => do
  match a 0 with
  | .text name =>
   discard (blob name)
   throw .noPart
  | path => keep (<- parse (<- Pajek.fileText path (a 1)))⟩,
 ⟨"readwrite.p2g.parse_p2g", "lines", fun a => do
  if !Lines.isStream (a 0) then throw .badKind
  keep (<- parse (<- Pajek.textLines (a 0)))⟩]

end P2g

end DexLens.Network
