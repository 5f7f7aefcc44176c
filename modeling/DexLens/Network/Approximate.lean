import DexLens.Network.Generate.Atlas

/-! # Quick answers to hard questions -/

namespace DexLens.Network.Approximate

variable (g : Graph) (weight : Value) (s t : Vals) (a : Args)

def isLarger : Bool := s.all t.contains && t.any (!s.contains ·)

def larger : Vals := if isLarger s t then t else s

def split : Nat -> Graph -> Vals × Vals
 | 0, _ => ([], [])
 | k + 1, g =>
  match g.verts with
  | [] => ([], [])
  | n :: _ =>
   let near := g.nbrs n
   let (c, i) := split k (g.subgraph (if g.directed then g.conbrs n ++ near else near))
   let (d, j) := split k (g.subgraph (g.verts.filter fun m => !near.contains m && !m.same n))
   (larger (including c n) d, larger i (including j n))

def cliqueRemoval : Vals × List Vals :=
 let once (g : Graph) := split (g.order + 1) g
 let first := once g
 let (_, _, sets, cliques) := g.order.fold (fun _ _ (acc : Graph × Vals × List Vals × List Vals) =>
  let (h, c, sets, cliques) := acc
  if h.order = 0 then acc
  else
   let h := h.removeNodes c
   let (c, i) := once h
   (h, c, if i.isEmpty then sets else sets ++ [i], if c.isEmpty then cliques else cliques ++ [c]))
  (g, first.1, [first.2], [first.1])
 (sets.tail.foldl larger (sets.headD []), cliques)

def dominating : Res Vals := do
 let mut costs : Table Value := g.nodes.map fun (n, r) => (n, r.items.getD weight 1)
 let mut sets : Table Vals := g.succ.map fun (n, row) => (n, uniq (n :: row.keys))
 let mut chosen := []
 let mut left := g.verts
 let cost (costs : Table Value) (chosen s : Vals) : Res Num := do
  let total := Num.sum (<- s.mapM fun n => do (costs.getD n .null).num)
  total.div (.float (ofInt (s.filter (!chosen.contains ·)).length))
 for _ in [0:g.order] do
  if left.isEmpty then break
  for (_, s) in sets do discard (cost costs chosen s)
  let n <- Value.least sets.keys
  let s := sets.getD n []
  let alpha <- cost costs chosen s
  for m in s do if !chosen.contains m then costs := costs.put m alpha
  chosen := including chosen n
  sets := sets.erase n
  left := left.filter (!s.contains ·)
 return chosen

def cover : Res Vals := do
 let start <- g.nodes.mapM fun (n, r) => return (n, <- (r.items.getD weight 1).num)
 let costs <- g.edges.foldlM (fun t e => do
  let least := Num.min (t.getD e.src 0) (t.getD e.dst 0)
  let pay (t : Table Num) n := t.put n (t.getD n 0 - least)
  return pay (pay t e.src) e.dst) start
 return costs.filterMap fun (n, c) => if c.isZero then n else none

def clustering : Work Value := do
 let g <- a.graphNot "directed"
 let trials <- a.int 1
 let n := g.order
 let picks <- draw ((List.range trials.toNat).mapM fun _ => .below n)
 let hits <- draw (picks.foldlM (fun (hits : Nat) i => do
  let v <- opt .beyond g.verts[i.toNat]?
  let near := g.nbrs v
  if near.length < 2 then return hits
  let [u, w] <- .sample near 2 | return hits
  return if g.hasEdge w u then hits + 1 else hits) 0)
 return <- Num.div (.int hits) (ofInt trials)

def peopled : Work Graph := do
 if a.isNull 0 then throw .badVal
 let g <- a.graph
 if g.order = 0 then throw .badVal
 return g

def matching : Value := .set ((Matching.maximal g).map .couple)

def cmds : List Cmd := Cmd.family "algorithms.approximation." [
 ⟨"max_clique", "G", fun a => do
  if a.isNull 0 then throw .badVal
  return .set (cliqueRemoval (<- (<- a.graph).complement .null)).1⟩,
 .of "clique_removal" "G" fun g _ => do
  let (s, cliques) := cliqueRemoval g
  return .tuple [.set s, .list (cliques.map .set)],
 .of "maximum_independent_set" "G" fun g _ => return .set (cliqueRemoval g).1,
 ⟨"ramsey.ramsey_R2", "G", fun a => do
  if a.isNull 0 then return .tuple [.set [], .set []]
  let g <- a.graph
  let (c, i) := split (g.order + 1) g
  return .tuple [.set c, .set i]⟩,
 ⟨"min_maximal_matching", "G", matching⟩,
 ⟨"min_edge_dominating_set", "G", fun a => return matching (<- peopled a)⟩,
 ⟨"min_weighted_dominating_set", "G weight?", fun a => return .set (<- dominating (<- peopled a) (a 1))⟩,
 ⟨"min_weighted_vertex_cover", "G weight?", fun a => return .set (<- cover (<- a.graphNot "directed") (a 1))⟩,
 ⟨"average_clustering", "G trials=1000", clustering⟩,
 ⟨"clustering_coefficient.average_clustering", "G trials=1000", clustering⟩]

end DexLens.Network.Approximate
