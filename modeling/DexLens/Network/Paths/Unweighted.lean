import DexLens.Network.Methods

/-! # Walks through a graph -/

namespace DexLens.Network

open Value

namespace Graph

variable (g : Graph) (src : Value)

def bound : Nat := .pow (g.order + Total.ofNats (g.succ.map (rowSize ·.2)) + 2) 3

inductive Turn where
 | forward
 | nontree
 | backward
 deriving DecidableEq

def Turn.word : Turn -> String
 | forward => "forward"
 | nontree => "nontree"
 | backward => "reverse"

def depthTurns (starts : Vals) : Res (List (Value × Value × Turn)) := do
 let mut visited := []
 let mut out := #[]
 for start in starts do
  if visited.contains (<- start.key) then continue
  out := out.push (start, start, .forward)
  visited := start :: visited
  let mut stack := [(start, (<- g.row start).keys)]
  for _ in [0:g.bound] do
   match stack with
   | [] => break
   | (parent, child :: kids) :: rest =>
    stack := (parent, kids) :: rest
    if visited.contains child then out := out.push (parent, child, .nontree)
    else
     out := out.push (parent, child, .forward)
     visited := child :: visited
     stack := (child, g.nbrs child) :: stack
   | (parent, []) :: rest =>
    stack := rest
    if let (grand, _) :: _ := rest then out := out.push (grand, parent, .backward)
  out := out.push (start, start, .backward)
 return out.toList

def startsAt : Vals := if src.isNull then g.verts else [src]

def depthEdges : Res Pairs :=
 return ((<- g.depthTurns (g.startsAt src)).foldl (fun (acc : Pairs × Nat) (u, v, t) =>
  match t with
  | .forward => if acc.2 = 0 then (acc.1, 1) else ((u, v) :: acc.1, acc.2 + 1)
  | .backward => (acc.1, acc.2 - 1)
  | .nontree => acc) ([], 0)).1.reverse

def turned (turn : Turn) : Res Vals :=
 return (<- g.depthTurns (g.startsAt src)).filterMap fun (_, v, t) => if t = turn then v else none

def preorder : Res Vals := g.turned src .forward

def postorder : Res Vals := g.turned src .backward

def breadthEdges (against : Bool) : Res Pairs := do
 let next v : Res Vals := if against && g.directed && !g.bare then g.preds v else g.neighbors v
 let mut visited := [<- src.key]
 let mut out := #[]
 let mut queue := [src]
 for _ in [0:g.bound] do
  let parent :: rest := queue | break
  queue := rest
  for child in <- next parent do
   if !visited.contains child then
    out := out.push (parent, child)
    visited := child :: visited
    queue := queue ++ [child]
 return out.toList

end Graph

namespace Traverse

variable (es : Pairs)

def pairs : Value := es.map couple

def before : Value := .dict (Table.ofList (es.map fun (u, v) => (v, u)))

def after : Value :=
 .dict ((es.foldl (fun (t : Table Vals) (u, v) => t.change u [] (· ++ [v])) []).map fun (u, vs) => (u, vs))

def cmds : List Cmd := [
 .of "dfs_edges" "G source?" fun g a => return pairs (<- g.depthEdges (a 1)),
 .of "dfs_tree" "G source" fun g a => do
  if !a.isNull 1 then discard (a 1).key
  keep (((Graph.new true false).addNodes (g.startsAt (a 1))).addEdges (<- g.depthEdges (a 1))),
 .of "dfs_predecessors" "G source?" fun g a => return before (<- g.depthEdges (a 1)),
 .of "dfs_successors" "G source?" fun g a => return after (<- g.depthEdges (a 1)),
 ⟨"dfs_postorder_nodes", "G source?", Graph.postorder⟩,
 ⟨"dfs_preorder_nodes", "G source?", Graph.preorder⟩,
 .of "dfs_labeled_edges" "G source?" fun g a =>
  return .list ((<- g.depthTurns (g.startsAt (a 1))).map fun (u, v, t) => .tuple [u, v, .dict [("dir", t.word)]]),
 .of "bfs_edges" "G source reverse=False" fun g a => return pairs (<- g.breadthEdges (a 1) (a.truth 2)),
 .of "bfs_tree" "G source reverse=False" fun g a => do
  keep (((Graph.new true false).addNode (a 1)).addEdges (<- g.breadthEdges (a 1) (a.truth 2))),
 .of "bfs_predecessors" "G source" fun g a => return before (<- g.breadthEdges (a 1) false),
 .of "bfs_successors" "G source" fun g a => return after (<- g.breadthEdges (a 1) false)]

end Traverse

/-! # Paths with the fewest edges -/

def reaches (limit : Value) (level : Nat) : Res Bool :=
 match limit with
 | .null => .ok false
 | v => return (<- v.num).le (.int level)

namespace Graph

variable (g : Graph) (src cutoff : Value)

def distances : Res (Table Nat) := do
 let mut seen : Table Nat := []
 let mut level := 0
 let mut next := [<- src.key]
 for _ in [0:g.order + 2] do
  if next.isEmpty then break
  let current := next
  next := []
  for v in current do
   if !seen.has v then
    seen := seen ++ [(v, level)]
    next := (<- g.row v).foldl (including · ·.1) next
  if <- reaches cutoff level then break
  level := level + 1
 return seen

def paths : Res (Table Vals) := do
 let mut found : Table Vals := [(<- src.key, [src])]
 if (cutoff == 0) then return found
 let mut level := 0
 let mut next := [src]
 for _ in [0:g.order + 2] do
  if next.isEmpty then break
  let current := next
  next := []
  for v in current do
   let path := found.getD v []
   for (w, _) in <- g.row v do
    if !found.has w then
     found := found ++ [(w, path ++ [w])]
     next := next ++ [w]
  level := level + 1
  if <- reaches cutoff level then break
 return found

def pathPredecessors : Res (Table Vals × Table Nat) := do
 let mut seen : Table Nat := [(<- src.key, 0)]
 let mut pred : Table Vals := [(src, [])]
 let mut level := 0
 let mut next := [src]
 for _ in [0:g.order + 2] do
  if next.isEmpty then break
  level := level + 1
  let current := next
  next := []
  for v in current do
   for (w, _) in <- g.row v do
    match seen.get? w with
    | none =>
     pred := pred ++ [(w, [v])]
     seen := seen ++ [(w, level)]
     next := next ++ [w]
    | some d => if d = level then pred := pred.change w [] (· ++ [v])
  if cutoff.truth then if <- reaches cutoff level then break
 return (pred, seen)

/-- A search from both ends: the nodes before and after each node, and where the searches met. -/
structure Meeting where
 (pred succ : Table Value)
 node : Value

def noPath {α : Type} (src dst : Value) : Res α :=
 .error (.graph .noPath s!"No path between {src.shown} and {dst.shown}.")

section

variable (src dst cutoff : Value)

def meet : Res Meeting := do
 if dst == src then return ⟨[(dst, .null)], [(src, .null)], src⟩
 let mut pred : Table Value := [(<- src.key, .null)]
 let mut succ : Table Value := [(<- dst.key, .null)]
 let mut fore := [src]
 let mut aft := [dst]
 for _ in [0:2 * g.order + 2] do
  if fore.isEmpty || aft.isEmpty then break
  let forward := fore.length ≤ aft.length
  let mut here := if forward then pred else succ
  let mut next := []
  for v in if forward then fore else aft do
   for w in <- if !forward && g.directed then g.preds v else g.neighbors v do
    if !here.has w then
     here := here ++ [(w, v)]
     next := next ++ [w]
    if forward && succ.has w then return ⟨here, succ, w⟩
    if !forward && pred.has w then return ⟨pred, here, w⟩
  if forward then
   pred := here
   fore := next
  else
   succ := here
   aft := next
 noPath src dst

def follow (t : Table Value) : Nat -> Value -> Vals
 | 0, _ => []
 | fuel + 1, v => if v.isNull then [] else v :: follow t fuel (t.getD v .null)

def pathBetween : Res Vals := do
 let m <- g.meet src dst
 let tail := follow m.succ (m.succ.length + 1) m.node
 let w :: _ := tail | .error .beyond
 return (follow m.pred (m.pred.length + 1) (m.pred.getD w .null)).reverse ++ tail

def allDistances : Res (Table (Table Nat)) := g.verts.mapM fun n => return (n, <- g.distances n cutoff)

def allPaths : Res (Table (Table Vals)) := g.verts.mapM fun n => return (n, <- g.paths n cutoff)

end

end Graph

namespace Paths

def lengths (t : Table Nat) : Value := ofTable nat t

def lists (t : Table Vals) : Value := ofTable list t

def predecessor (a : Args) : Work Value := do
 let g <- a.graph
 let (pred, seen) <- g.pathPredecessors (a 1) (a 3)
 let dst := a 2
 if dst.isNull then return if a.truth 4 then .tuple [lists pred, lengths seen] else lists pred
 let some ps := pred.get? (<- dst.key) | return if a.truth 4 then .tuple [.list [], .int (-1)] else .list []
 return if a.truth 4 then .tuple [ps, seen.getD dst 0] else ps

def unweightedCommands : List Cmd := [
 ⟨"single_source_shortest_path_length", "G source cutoff?", Graph.distances⟩,
 .of "all_pairs_shortest_path_length" "G cutoff?" fun g a => return ofTable lengths (<- g.allDistances (a 1)),
 ⟨"bidirectional_shortest_path", "G source target", Graph.pathBetween⟩,
 ⟨"single_source_shortest_path", "G source cutoff?", Graph.paths⟩,
 .of "all_pairs_shortest_path" "G cutoff?" fun g a => return ofTable lists (<- g.allPaths (a 1)),
 ⟨"predecessor", "G source target? cutoff? return_seen?", predecessor⟩]

end Paths

end DexLens.Network
