import DexLens.Inspect.Search
import DexLens.Listing.Code

/-! # Listings of a file under inspection -/

namespace DexLens.Inspect

open Analysis Dex Listing Query String Text

def referenceLine (tag : String) (r : MRef) (places : List Nat) : Query String := do
 let m := (<- file).methodAt r
 return s!"{tag}: {m.owner} {m.title} {m.sig} " ++ " ".intercalate (places.map hexNat) ++ "\n"

/-- The text ends where a place is unknown. The second part tells whether all lines are there. -/
def referenceLines (tag : String) (refs : Refs) : Query (String × Bool) := do
 refs.items.foldlM (fun (acc, whole) (r, places) => do
  if !whole then return (acc, false)
  let some ps := places.mapM id | return (acc, false)
  return (acc ++ (<- referenceLine tag r ps), true)) ("", true)

def methodReferenceText (r : MRef) : Query String := do
 let some (callers, callees) := (<- get).methodRefs.lookup r | return heading "XREF"
 let (a, whole) <- referenceLines "F" callers
 if !whole then return heading "XREF" ++ a
 let (b, whole) <- referenceLines "T" callees
 return heading "XREF" ++ a ++ b ++ if whole then rule else ""

def showMethod (r : MRef) : Query String := do
 let d <- file
 let m := d.methodAt r
 let some c := d.codeOf? r | return methodHead m
 let params <- of (regs c.regs m.sig)
 if (<- get).attached then
  return methodHead m ++ params ++ (<- of (blockCode d m.title c (<- flow r))) ++ (<- methodReferenceText r)
 else return methodHead m ++ params ++ (<- of (plainCode d c))

def showField (r : FieldRef) : Query String := do
 let f := (<- file).fieldAt r
 let refs <- match (<- get).traffic.lookup r with
  | none => pure ""
  | some t => do
   let reads <- t.reads.mapM fun (m, ps) => referenceLine "R" m ps
   let writes <- t.writes.mapM fun (m, ps) => referenceLine "W" m ps
   pure (join reads ++ join writes ++ rule)
 return fieldHead f ++ heading "DREF" ++ refs

def showClass (i : Nat) (c : ClassDef) : Query String := do
 let refs <- match (<- get).classReferences.lookup i with
  | none => pure ""
  | some refs => do
   let (a, whole) <- referenceLines "F" refs
   pure (a ++ if whole then rule else "")
 return classDef c ++ heading "XREF" ++ refs

def showAll {α : Type} (f : α -> Query String) (xs : List α) : Query String := return join (<- xs.mapM f)

def showData (i : Nat) (c : ClassData) : Query String := do
 let refs lo hi := .range' lo (hi - lo)
 let fields lo hi := showAll (fun s => showField ⟨i, s⟩) (refs lo hi)
 let methods lo hi := showAll (fun s => showMethod ⟨i, s⟩) (refs lo hi)
 let nf := c.fields.size
 let nm := c.methods.size
 return heading "Class Data Item" ++
  s!"static_fields_size={c.staticCount} instance_fields_size={nf - c.staticCount} direct_methods_size={c.directCount} virtual_methods_size={nm - c.directCount}\n" ++
  heading "Static Fields" ++ (<- fields 0 c.staticCount) ++
  heading "Instance Fields" ++ (<- fields c.staticCount nf) ++
  heading "Direct Methods" ++ (<- methods 0 c.directCount) ++
  heading "Virtual Methods" ++ (<- methods c.directCount nm)

def numbered (xs : List String) : String := join (xs.zipIdx.map fun (s, i) => toString i ++ s)

def showContent : Content -> Query String
 | .header h => return header h
 | .stringIds xs => return join (xs.toList.map stringId)
 | .typeIds _ xs => return heading "Type List Item" ++ join (xs.toList.map typeId)
 | .protoIds _ xs => return heading "Proto List Item" ++ join (xs.toList.map protoId)
 | .fieldIds _ xs => return numbered (xs.toList.map fieldId)
 | .methodIds _ xs => return "METHOD_ID_ITEM\n" ++ numbered (xs.toList.map methodId)
 | .classDefs _ xs => showAll (fun (c, i) => showClass i c) xs.toList.zipIdx
 | .mapList => return ""
 | .typeLists xs => return join (xs.toList.map typeList)
 | .noteRefs xs => showAll (fun x => of (noteRefs x)) xs.toList
 | .noteSets xs => return join (xs.toList.map noteSet)
 | .classData xs => showAll (fun (c, i) => showData i c) xs.toList.zipIdx
 | .code _ xs => do
  let d <- file
  return "CODE_ITEM\n" ++ (<- showAll (fun c => of (plainCode d c)) xs.toList)
 | .stringData xs => return join (xs.toList.map stringData)
 | .debugInfo _ _ => return ""
 | .annotations xs => return join (xs.toList.map noteItem)
 | .encodedArrays xs => return join (xs.toList.map encodedArray)
 | .noteDirs xs => return join (xs.toList.map noteDir)

def showEntry (m : MapItem) : Query String :=
 return "\tMAP_TYPE_ITEM " ++ m.kind.title ++ "\n" ++ (<- showContent m.blob)

def showFile : Query String := do
 let d <- file
 if d.lead.mapOff = 0 then throw .noPart
 return s!"MAP_LIST SIZE 0x{Text.hexNat d.mapSize}\n" ++
  (<- showAll showEntry (d.items.toList.filter (·.kind ≠ .mapList)))

def showSection (code : Nat) : Query String := do
 let d <- file
 if d.lead.mapOff = 0 then throw .noPart
 let some m := d.items.toList.find? (·.code = code) | throw .noSuchMember
 if m.kind = .mapList then return "\tMAP_TYPE_ITEM " ++ m.kind.title ++ "\n" ++ (<- showFile)
 else showEntry m

def tupledNames : String × String × String -> String
 | (c, n, p) => tupled [quoted c, quoted n, quoted p]

def showPackage (name : String) : Query String := do
 let some p := (<- usage).pkgs.find? (·.name == name) | throw .noKey
 let creations <- p.creations.mapM fun path =>
  return s!"\t\t => {Text.hexNat path.offset} in {tupledNames (<- names path.src)}\n"
 let calls <- p.calls.mapM fun path => do
  let dst <- names (path.dst.getD 0)
  return s!"\t\t => {tupledNames dst} <-- {Text.hexNat path.offset} in {tupledNames (<- names path.src)}\n"
 return p.name ++ "\n\t --> 0\n" ++ join creations ++ "\t --> 1\n" ++ join calls

def arrowed : String × String × String -> String
 | (c, n, p) => c ++ "->" ++ n ++ p

def pathLine (p : Path) : Query String := do
 let src <- names p.src
 let some t := p.dst | return s!"0 {arrowed src} (0x{Text.hexNat p.offset})\n"
 return s!"1 {arrowed src} (0x{Text.hexNat p.offset}) ---> {arrowed (<- names t)}\n"

def needLine : Need -> Query String
 | .call p => pathLine p
 | .field f a off m => do
  let var := bracketed [quoted f.cls, quoted f.name, quoted f.type]
  return s!"{a.letter} {var} (0x{Text.hexNat off}) ---> {arrowed (<- names m)}\n"

def showNeeds : Query String := do
 showAll (fun (perm, places) => return perm ++ " :\n" ++ (<- showAll needLine places)) (<- needed [])

def showNative : Query String := do
 let d <- file
 return join ((<- look File.methods).filterMap fun r =>
  let m := d.methodAt r
  if AccessFlags.has m.flags 0x100 then s!"{m.owner} {m.title} {m.sig}\n" else none)

def showPaths (ps : Query (List Path)) : Query String := do showAll pathLine (<- ps)

end DexLens.Inspect
