import DexLens.CallGraph.Basic
import DexLens.Listing.Dot

/-! # Call graphs in the GEXF format -/

namespace DexLens.CallGraph

open Listing Markup String

namespace Node

variable (n : Node)

def attributes : List (String × Option String) :=
 [("type", n.kind.name), ("class_name", n.cls), ("method_name", n.method), ("descriptor", n.desc),
  ("real", some (if n.real then "True" else "False")), ("permission_name", n.permission),
  ("permission_level", n.level), ("dexload_filename", n.loaded)]

def values : List (Nat × String) := n.attributes.zipIdx.filterMap fun ((_, v), i) => v.map (i, ·)

def shape : String := if n.real then "disc" else "diamond"

def gexf : String :=
 let (r, g, b) := n.kind.colour
 line "viz:color" [("r", toString r), ("g", toString g), ("b", toString b)] ++ line "viz:shape" [("value", n.shape)] ++
  block "attvalues" [] (join (n.values.map fun (i, v) => line "attvalue" [("id", toString i), ("value", markup v)]))

end Node

def gexfEdges (es : List (Nat × Nat)) : String := join (es.zipIdx.map fun ((u, v), i) =>
 line "edge" [("id", toString i), ("source", toString u), ("target", toString v)])

/-- A document with titles for the attributes, nodes and edges. -/
def gexfText (titles : String) (nodes : List String) (edges : List (Nat × Nat)) : String :=
 "<?xml version=\"1.0\" encoding=\"UTF-8\"?>\n" ++
  block "gexf" [("xmlns", "http://www.gephi.org/gexf"), ("xmlns:viz", "http://www.gephi.org/gexf/viz")]
   (block "graph" [("type", "static")] (block "attributes" [("class", "node"), ("type", "static")] titles ++
    block "nodes" [] (join nodes) ++ block "edges" [] (gexfEdges edges)))

/-- The nodes of the graph proper, by number. -/
def Graph.listed (g : Graph) : List (Nat × Node) := g.links.nodes.map fun i => (i, g.nodes.getD i default)

def Graph.gexf (g : Graph) : String :=
 gexfText (String.join ((default : Node).attributes.zipIdx.map fun ((t, _), i) =>
  line "attribute" [("title", t), ("id", toString i), ("type", "string")]))
  (g.listed.map fun (i, n) => block "node" [("id", toString i), ("label", markup n.label)] n.gexf) g.links.edges

end DexLens.CallGraph
