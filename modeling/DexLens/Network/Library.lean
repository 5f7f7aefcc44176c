import DexLens.Network.Matrix.Spectral

/-! # All commands -/

namespace DexLens.Network.Library

def cmds : List Cmd :=
 [Convert.cmds, Basics.cmds, Traverse.cmds, Paths.cmds, Components.cmds, Acyclic.cmds,
  Clustering.cmds, Ego.cmds, Cliques.cmds, Cores.cmds, Eccentricity.cmds, Cycles.cmds,
  Chordal.cmds, Spanning.cmds, Matching.cmds, Betweenness.cmds, Bipartite.cmds, Flow.cmds,
  Connectivity.cmds, Combine.cmds, CostFlow.cmds, Ranking.cmds, Mixing.cmds, Swap.cmds,
  Blocks.cmds, Isomorphism.cmds, Generate.cmds, Generate.smallCommands, Generate.socialCommands,
  Generate.commandsByDegrees, Lines.cmds, Graph6.cmds, Pajek.cmds, Leda.cmds, P2g.cmds,
  Gml.cmds, JsonGraph.cmds, GraphMl.cmds, Gexf.cmds, Collections.cmds, Generate.randomCommands,
  Generate.growthCommands, Generate.communityCommands, Generate.twoSidedCommands, Generate.expectedCommands,
  Robust.cmds, Atlas.cmds, Approximate.cmds, Threshold.cmds, Matrix.cmds,
  Matrix.laplacianCommands, Matrix.mixingCommands, Layout.cmds, CurrentFlow.cmds, Spectral.cmds].flatten

def within : List String -> List String -> Bool
 | [], _ => true
 | _ :: _, [] => false
 | a :: as, b :: bs => if a = b then within as bs else within (a :: as) bs

variable (name : String)

def find? : Option Cmd :=
 let parts := Text.split '.' name
 let fitting := cmds.filter fun c =>
  let own := Text.split '.' c.name
  own.getLast? == parts.getLast? && within own parts
 (cmds.find? (·.name == name)).or (fitting.foldl (fun best c =>
  if best.all (·.name.length < c.name.length) then some c else best) none)

def call (given : Vals) (byName : Parts) : Work Value := do
 (<- opt .noPart (find? name)).call given byName

def ask (thing : Value) (method : String) (xs : Vals) (ks : Parts) : Work (Value × Res Value) := do
 match thing with
 | .object "GraphMatcher" parts | .object "MultiGraphMatcher" parts =>
  return (thing, .ok (<- Isomorphism.ask parts false method))
 | .object "DiGraphMatcher" parts | .object "MultiDiGraphMatcher" parts =>
  return (thing, .ok (<- Isomorphism.ask parts true method))
 | .function _ | .object "match" _ =>
  if method = "__call__" then return (thing, (<- get).apply thing xs) else throw .noPart
 | .object name parts =>
  let (parts, r) <- match name with
   | "GraphMLWriter" => GraphMl.askWriter parts method xs
   | "GraphMLReader" => GraphMl.askReader parts method xs ks
   | "GEXFWriter" => Gexf.askWriter parts method xs
   | "GEXFReader" => Gexf.askReader parts method xs
   | "UnionFind" => Collections.askUnion parts method xs
   | _ => throw .noPart
  return (.object name parts, r)
 | _ => throw .noPart

end DexLens.Network.Library
