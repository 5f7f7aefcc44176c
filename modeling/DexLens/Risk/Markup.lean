import DexLens.CallGraph.Gexf
import DexLens.Risk.Basic

/-! # Risk maps as GEXF and GraphML -/

namespace DexLens.Risk

open Listing CallGraph Markup

namespace Spot

variable (s : Spot)

def colour? : Res (Option (Int × Int × Int)) :=
 match s.value "color" with
 | .null => .ok none
 | .arr (.int r :: .int g :: .int b :: _) => .ok (some (r, g, b))
 | .arr [] | .arr [.int _] | .arr [.int _, .int _] | .str "" => .error .beyond
 | .obj _ => .error .noKey
 | _ => .error .badKind

def gexf : Res String := do
 let colour := match <- s.colour? with
  | some (r, g, b) => line "viz:color" [("r", toString r), ("g", toString g), ("b", toString b)]
  | none => ""
 let shownValue id v := line "attvalue" [("id", id), ("value", v)]
 let type := match s.value "type" with
  | .str "normal" => ""
  | t => shownValue "0" t.shown
 let permissions <- match s.value "permissions" with
  | .int 0 => pure ""
  | p => do
   let some l := s.attributes.lookup "permissions_level_name" | throw .noKey
   pure (shownValue "4" p.shown ++ shownValue "5" l.shown)
 return colour ++ block "attvalues" [] (shownValue "1" (markup s.method.cls) ++ shownValue "2" (markup s.method.name) ++
  shownValue "3" (markup s.method.desc) ++ type ++ permissions ++ shownValue "6" (s.value "dynamic_code").shown)

def labelStyle : String :=
 "<y:NodeLabel alignment=\"left\" autoSizePolicy=\"content\" fontFamily=\"Dialog\" fontSize=\"13\" " ++
 "fontStyle=\"plain\" hasBackgroundColor=\"false\" hasLineColor=\"false\" modelName=\"internal\" " ++
 "modelPosition=\"c\" textColor=\"#000000\" visible=\"true\">\n"

def hexPart (n : Int) : String :=
 let t := Text.hexNat n.toNat
 if t.length < 2 then "0" ++ t else t

def graphml : Res String := do
 let m := s.method
 let width := 8 * max (max m.cls.length m.name.length) m.desc.length
 let fill := match <- s.colour? with
  | some (r, g, b) => "<y:Fill color=\"#" ++ hexPart r ++ hexPart g ++ hexPart b ++ "\" transparent=\"false\"/>\n"
  | none => ""
 return "<data key=\"d6\">\n<y:ShapeNode>\n" ++
  s!"<y:Geometry height=\"160.000000\" width=\"{width}.000000\"/>\n" ++ fill ++ labelStyle ++
  markup (m.cls ++ "\n" ++ m.name ++ "\n" ++ m.desc) ++ "</y:NodeLabel>\n</y:ShapeNode>\n</data>\n"

end Spot

def gexfTitles : String := .join (
 [("0", "type", "string", "normal"), ("1", "class_name", "string", ""), ("2", "method_name", "string", ""),
  ("3", "descriptor", "string", ""), ("4", "permissions", "integer", "0"), ("5", "permissions_level", "string", "normal"),
  ("6", "dynamic_code", "boolean", "false")].map fun (id, title, type, byDefault) =>
   line "attribute" ((if byDefault = "" then [] else [("default", byDefault)]) ++ [("id", id), ("title", title), ("type", type)]))

namespace Map

def gexf (g : Map) : Res String := do
 let nodes <- g.calls.nodes.mapM fun i => do
  let s := g.spots.getD i default
  return block "node" [("id", toString i), ("label", markup s.label)] (<- s.gexf)
 return gexfText gexfTitles nodes g.calls.edges

def graphmlHead : String :=
 "<?xml version=\"1.0\" encoding=\"UTF-8\" standalone=\"no\"?>\n" ++
 "<graphml xmlns=\"http://graphml.graphdrawing.org/xmlns\" " ++
 "xmlns:xsi=\"http://www.w3.org/2001/XMLSchema-instance\" xmlns:y=\"http://www.yworks.com/xml/graphml\" " ++
 "xmlns:yed=\"http://www.yworks.com/xml/yed/3\" xsi:schemaLocation=\"http://graphml.graphdrawing.org/xmlns " ++
 "http://www.yworks.com/xml/schema/graphml/1.1/ygraphml.xsd\">\n" ++
 "<key attr.name=\"description\" attr.type=\"string\" for=\"node\" id=\"d5\"/>\n" ++
 "<key for=\"node\" id=\"d6\" yfiles.type=\"nodegraphics\"/>\n<graph edgedefault=\"directed\" id=\"G\">\n"

def graphml (g : Map) : Res String := do
 let nodes <- g.calls.nodes.mapM fun i =>
  return block "node" [("id", toString i)] (<- (g.spots.getD i default).graphml)
 return graphmlHead ++ .join nodes ++ gexfEdges g.calls.edges ++ "</graph>\n</graphml>\n"

end Map

end DexLens.Risk
