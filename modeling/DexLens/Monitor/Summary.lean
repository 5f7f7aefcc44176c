import DexLens.Monitor.Session

/-! # What a session tells -/

namespace DexLens.Monitor

open CallGraph String

variable (s : Session) (title : String)

def siteLines (sites : List Site) : String :=
 let shown m := s!"[{m.cls} {m.name} {m.desc}]\n"
 if sites.isEmpty then ""
 else title ++ ":\n" ++ join (sites.map fun x => "SRC: " ++ shown x.src ++ "DST: " ++ shown x.dst)

def Session.remaining : String :=
 if s.hasMore then
  "Printing still uncovered methods of interest:\n\n" ++ siteLines "REFLECTION INVOKE" s.invokes.uncovered ++
   siteLines "REFLECTION NEW_INSTANCE" s.makings.uncovered ++
   siteLines "DYNAMIC LOAD" s.loads.uncovered ++ "\n"
 else "All methods of interest are covered at least one time!!!\n\n"

def tuple : Frame -> String
 | [x] => "(" ++ Text.quoted x ++ ",)"
 | xs => "(" ++ ", ".intercalate (xs.map Text.quoted) ++ ")"

def tupled (m : Sig) : String := tuple (frameOf m)

def stackText (stack : List Frame) : String := "[" ++ ", ".intercalate (stack.map tuple) ++ "]"

def thickLine : String := "=============================================\n"

def chapter {α : Type} (items : List α) (f : α -> String) : String :=
 if items.isEmpty then ""
 else thickLine ++ title ++ ":\n*********************************************\n" ++
  join (items.map (f · ++ "\n")) ++ thickLine ++ "\n"

def banner : String :=
 let line := "%%%%%%%%%%%%%%%%%%%%%%%%%%%%%%%%%%%%%%%%%%%%%%%%%%%%%\n"
 "\n\n" ++ line ++ title ++ ":\n" ++ line

def Numbers.lines (which protectedWith : String) (n : Numbers) : String :=
 join <| [
  ("nodes in the graph", n.nodes), ("real nodes in the graph", n.realNodes), ("edges in the graph", n.edges),
  (s!"nodes {protectedWith} of normal level", n.normal),
  (s!"nodes {protectedWith} of dangerous level", n.dangerous),
  (s!"nodes {protectedWith} of signature level", n.sig),
  (s!"nodes {protectedWith} of signatureOrSystem level", n.signatureOrSystem),
  ("all nodes protected with permissions", n.needing),
  ("reflection invoke nodes", n.invokes), ("reflection new instance nodes", n.makings),
  ("dexload nodes", n.loads)].map fun (title, k) => s!"{which} number of {title}: \t{k}\n"

def percentage (title dashes : String) (covered total : Nat) : String :=
 let lead := s!"Percentage of covered {title} methods: "
 if total > 0 then lead ++ "\t" ++ Decimal.fixed 2 (100.0 * .ofNat covered / .ofNat total) ++ "\n"
 else lead ++ dashes ++ "\n"

def Watch.coveredCount {σ κ : Type} (w : Watch σ κ) : Nat := w.srcs.length - w.uncovered.length

def Session.countText : String :=
 let inv := s.invokes
 let new := s.makings
 let dex := s.loads
 let line title n := s!"Number of {title}: \t{n}\n"
 thickLine ++ s.initial.lines "Initial" "protected with permissions" ++ "\n" ++
  s.numbers.lines "Final" "protected permissions" ++ thickLine ++ "\n" ++
  thickLine ++ line "covered reflection invoke methods" inv.coveredCount ++
  line "covered reflection new instance methods" new.coveredCount ++
  line "covered dexload methods" dex.coveredCount ++ "\n" ++
  percentage "reflection invoke" "------" inv.coveredCount inv.srcs.length ++
  percentage "reflection new instance" "-----" new.coveredCount new.srcs.length ++
  percentage "dexload" "-----" dex.coveredCount dex.srcs.length ++ "\n" ++
  line "detected reflection invoke unique paths" inv.covered.length ++
  line "detected reflection new instance unique paths" new.covered.length ++
  line "detected dexload unique paths" dex.covered.length ++ thickLine ++ "\n" ++
  thickLine ++ line "suspicious reflection invoke methods" inv.suspicious.length ++
  line "suspicious reflection new instance methods" new.suspicious.length ++
  line "suspicious dexload methods" dex.suspicious.length ++ thickLine ++ "\n"

def Session.detectedText : String :=
 banner "DETECTED PATHS" ++
  chapter "DETECTED REFLECTION INVOKE PATHS" s.invokes.covered (fun x =>
   s!"SRC MOI: \t{tupled x.src}\nTHROUGH: \t{tuple x.hop}\nDST: \t{tupled x.dst}\n") ++
  chapter "DETECTED REFLECTION NEW INSTANCE PATHS" s.makings.covered (fun x =>
   s!"SRC MOI: \t {tupled x.src} \nTHROUGH: \t {tuple x.hop} \nDST: \t {tupled x.dst} \n") ++
  chapter "DETECTED DEXLOAD PATHS" s.loads.covered fun x =>
   s!"SRC MOI: \t {tupled x.src} \nTHROUGH: \t {tupled x.hop} \nFILENAME: \t {x.path} \n"

def Session.uncoveredText : String :=
 let shown call x := s!"SRC MOI: \t{tupled x.src}\n{call} CALL: \t{tupled x.dst}\n"
 banner "UNCOVERED PATHS" ++ "\n" ++ chapter "UNCOVERED REFLECTION INVOKE PATHS" s.invokes.uncovered (shown "REFL") ++
  chapter "UNCOVERED REFLECTION INVOKE PATHS" s.makings.uncovered (shown "REFL") ++
  chapter "UNCOVERED DEXLOAD PATHS" s.loads.uncovered (shown "DEXLOAD")

def Session.suspiciousText : String :=
 let shown x := s!"REFL CALL: \t{tuple x.hop}\nDST: \t{tupled x.dst}\nSTACK:\n{stackText x.stack}\n"
 banner "SUSPICIOUS CALLS" ++ chapter "SUSPICIOUS REFLECTION INVOKE CALLS" s.invokes.suspicious shown ++
  chapter "SUSPICIOUS REFLECTION NEW INSTANCE CALLS" s.makings.suspicious shown ++
  chapter "SUSPICIOUS DEXLOAD CALLS" s.loads.suspicious fun x =>
   s!"FILENAME: \t{x.path}\nSTACK:\n{stackText x.stack}\n"

def Session.summary : String := s.countText ++ s.detectedText ++ s.uncoveredText ++ s.suspiciousText

end DexLens.Monitor
