import DexLens.Network.Graph.Basic

/-! # Changing graphs

Changes whose arguments may not fit. What was done before the misfit stays done.
-/

namespace DexLens.Network

open Table

variable (g : Graph) (message : String) (table v : Value) (more : Items)

namespace Value

def two : Res (Value × Value) := do
 let [a, b] <- v.items | .error .badVal
 return (a, b)

def three : Res (Value × Value × Value) := do
 let [a, b, c] <- v.items | .error .badVal
 return (a, b, c)

def front (n : Nat) : Value -> Res Vals
 | tuple xs | list xs => .ok (xs.take n)
 | text s => .ok ((s.toList.take n).map (text ·.toString))
 | _ => .error .badKind

def filling : Value -> Res String
 | tuple [x] => .ok x.shown
 | tuple _ => .error .badKind
 | v => .ok v.shown

def entries : Value -> Res Items
 | dict xs => .ok xs
 | v => do
  (<- v.items).mapM fun x => do
   let (k, y) <- x.two
   return (<- k.key, y)

end Value

def Graph.fault : Fault := if g.bare then .unknownName else .graph .fail message

def Graph.word : String := if g.directed then "digraph" else "graph"

def fail {α : Type} (message : String) : Res α := .error (.graph .fail message)

abbrev Edit := ExceptT Fault (StateM Graph)

namespace Edit

variable (ns : Vals) (es : Vals) (n : Value) (u v : Value)

def complain {α : Type} : Edit α := do throw ((<- get).fault message)

def attributes (word : String := "dictionary") : Edit Items :=
 match table with
 | .null => return more
 | .dict xs => return merge (ofList xs) more
 | _ => complain s!"The attr_dict argument must be a {word}."

def checkKey : Edit Unit := discard v.key

def addNode (table : Value := .null) (more : Items := []) : Edit Unit := do
 let items <- attributes table more
 checkKey n
 modify (·.addNode n items)

def openRow : Edit Unit :=
 modify fun g => { g with succ := g.succ.put n [], pred := if g.directed then g.pred.put n [] else g.pred }

def addNodesFrom (more : Items := []) : Edit Unit :=
 ns.forM fun n => do
  if n.hashable then modify (·.addNode n more)
  else
   let (m, table) <- n.two
   checkKey m
   if !(<- get).nodes.has m then openRow m
   modify fun g => if g.nodes.has m then g.addNode m more else g
   modify (·.addNode m (merge more (<- table.entries)))

def removeNode : Edit Unit := do
 checkKey n
 let g <- get
 if g.nodes.has n then set (g.removeNode n)
 else complain s!"The node {n.shown} is not in the {g.word}."

def removeNodesFrom : Edit Unit :=
 ns.forM fun n => do
  checkKey n
  modify (·.removeNode n)

def addEdge (table : Value := .null) (more : Items := []) (key : Value := .null) : Edit Unit := do
 let items <- attributes table more
 checkKey u
 modify (·.ensure u)
 checkKey v
 modify (·.ensure v)
 if key.isNull then modify (·.addEdge u v items)
 else
  checkKey key
  modify (·.addEdge u v items key)

def addListedEdge (e : Value) (items : Items) : Edit Unit := do
 let g <- get
 discard (opt .badKind e.size?)
 match <- e.items, g.multi with
 | [u, v], _ => join u v (.dict []) .null
 | [u, v, d], _ => join u v d .null
 | [u, v, k, d], true => join u v d k
 | _, multi =>
  let form := if multi then "2-tuple, 3-tuple or 4-tuple" else "2-tuple or 3-tuple"
  complain s!"Edge tuple {e.shown} must be a {form}."
where
 join (u v d key : Value) : Edit Unit := do
  let g <- get
  if g.multi then
   checkKey u
   if g.succ.has u then checkKey v
   checkKey key
   let existing := if let some (.many rs) := g.bundle? u v then !key.isNull && rs.has key else false
   if existing then modify (·.addEdge u v items key)
   let all <- d.entries
   addEdge u v .null (merge items all) key
  else
   if g.directed then
    let .dict _ := d | throw .broken
    pure ()
   checkKey u
   modify (·.ensure u)
   checkKey v
   modify (·.ensure v)
   if g.hasEdge u v then modify (·.addEdge u v items)
   let all <- d.entries
   modify (·.addEdge u v (merge items all))

def edgeAttributes : Edit Items := do
 let g <- get
 attributes table more (if g.directed && !g.multi then "dict" else "dictionary")

def addEdgesFrom (table : Value := .null) (more : Items := []) : Edit Unit := do
 let items <- edgeAttributes table more
 es.forM (addListedEdge · items)

def addWeightedEdgesFrom (weight : Value) (more : Items := []) : Edit Unit :=
 es.forM fun e => do
  let (u, v, d) <- e.three
  addListedEdge (.tuple [u, v, [(<- weight.key, d)]]) more

def removeEdge (key : Value := .null) : Edit Unit := do
 let g <- get
 checkKey u
 if g.succ.has u then checkKey v
 let missing := s!"The edge {u.shown}-{v.shown}"
 if !g.hasEdge u v then
  complain (missing ++ if g.multi then " is not in the graph."
   else if g.directed then " not in graph." else " is not in the graph")
 else if !g.multi then set (g.unlink u v)
 else if key.isNull then set (g.unlinkKey u v none)
 else
  checkKey key
  let some (.many rs) := g.bundle? u v | set (g.unlink u v)
  if rs.has key then set (g.unlinkKey u v key)
  else complain s!"{missing} with key {key.shown} is not in the graph."

def removeEdgesFrom : Edit Unit :=
 es.forM fun e => do
  let g <- get
  if g.multi then
   match <- e.front 3 with
   | [u, v] => quietly u v .null
   | [u, v, k] => quietly u v k
   | _ => throw .badKind
  else
   let [u, v] <- e.front 2 | throw .badVal
   checkKey u
   if g.succ.has u then checkKey v
   modify fun g => if g.hasEdge u v then g.unlink u v else g
where
 quietly u v k : Edit Unit := do
  tryCatch (removeEdge u v k) fun
   | .graph .fail _ => pure ()
   | f => throw f

def addStar (more : Items := []) : Edit Unit := do
 let v :: vs := ns | throw .beyond
 addEdgesFrom (vs.map fun n => .tuple [v, n]) .null more

def addPath (more : Items := []) : Edit Unit := addEdgesFrom ((ns.zip (ns.drop 1)).map .couple) .null more

def addCycle (more : Items := []) : Edit Unit := match ns with
 | [] => throw .beyond
 | v :: vs => addEdgesFrom ((ns.zip (vs ++ [v])).map .couple) .null more

def result (changes : Edit Unit) : Res Graph :=
 match changes.run.run g with
 | (.ok _, h) => .ok h
 | (.error f, _) => .error f

end Edit

end DexLens.Network

/-! # Questions about graphs -/

namespace DexLens.Network.Graph

variable (g : Graph) (n : Value) (side : Side) (given weight : Value) (items : Option Vals)

def contains : Bool := n.hashable && g.nodes.has n

def row : Res (Table Bundle) := do g.succ.get (<- n.key)

def bunch : Res Vals :=
 if given.isNull then .ok g.succ.keys
 else if g.contains given then .ok [given]
 else
  match items with
  | none => .error (g.fault "nbunch is not a node or a sequence of nodes.")
  | some xs => do
   let kept <- xs.mapM fun x => do
    if x.hashable then return if g.succ.has x then [x] else []
    else if g.bare then .error .unknownName
    else fail ("Node " ++ (<- x.filling) ++ " in the sequence nbunch is not a valid node.")
   return kept.flatten

def neighbors : Res Vals :=
 return Table.keys (<- opt (g.fault s!"The node {n.shown} is not in the {g.word}.") (g.succ.get? (<- n.key)))

def preds : Res Vals :=
 return Table.keys (<- opt (g.fault s!"The node {n.shown} is not in the digraph.") (g.pred.get? (<- n.key)))

inductive Side where
 | both
 | leaving
 | entering
 deriving DecidableEq

def degreeOf (n : Value) : Res Value :=
 if weight.isNull then
  .ok (.nat (match side with
   | .both => g.degree n
   | .leaving => g.outDegree n
   | .entering => g.inDegree n))
 else do
  let w <- match side with
   | .both => g.weightAt weight n
   | .leaving => g.outWeight weight n
   | .entering => g.inWeight weight n
  return w

def degreesOf (ns : Vals) : Res (Table Value) := ns.mapM fun n => return (n, <- g.degreeOf side weight n)

def pairedDegrees (g : Graph) (weight : Value) : Vals -> Res (Table Value)
 | n :: m :: ns => do
  let a <- (<- g.degreeOf .leaving weight n).num
  let b <- (<- g.degreeOf .entering weight m).num
  return (n, (a + b).value) :: (<- g.pairedDegrees weight ns)
 | _ => .ok []

def degreeTable (ns : Vals) : Res (Table Value) := do
 let .stream _ := given | g.degreesOf side weight ns
 if g.directed && side = .both then g.pairedDegrees weight ns else g.degreesOf side weight ns

def degreeView : Res Value := do
 let ns <- g.bunch given items
 if g.contains given then
  let n :: _ := ns | .error .exhausted
  g.degreeOf side weight n
 else return Table.ofList (<- g.degreeTable side given weight ns)

def sizeView : Res Value := do
 let .dict t <- g.degreeView .both .null weight none | .error .noPart
 let s := (<- Value.sumOf (Table.values t)).toFloat / 2
 return if weight.isNull then (truncate? s).getD 0 else s

def rowValue (row : Table Bundle) : Value := .dict (row.map fun (n, b) => (n, b.items))

def bundleAt? (u v : Value) : Res (Option Bundle) := do
 let some row := g.succ.get? (<- u.key) | return none
 return row.get? (<- v.key)

def edgeData (u v key dflt : Value) : Res Value := do
 let some b <- g.bundleAt? u v | return dflt
 if g.multi && !key.isNull then return b.items.getD (<- key.key) dflt else return b.items

def hasEdgeKey (u v key : Value) : Res Bool := do
 let some b <- g.bundleAt? u v | return false
 if key.isNull then return true else return b.items.has (<- key.key)

def countBetween (u v : Value) : Res Value := if g.multi then return .nat ((<- g.bundleAt? u v).elim 0 (·.size))
 else return if (<- g.row u).has (<- v.key) then 1 else 0

def loopNodes : Vals := Table.keys (g.succ.filter fun (n, row) => row.has n)

def loops : List Edge := g.succ.flatMap fun (n, row) => rowEdges n (row.filter (·.1 == n))

end DexLens.Network.Graph
