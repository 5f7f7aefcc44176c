import DexLens.Descriptor
import DexLens.Dex.Tape
import DexLens.Inspect.Search

/-! # Notes, tags and the traffic of fields -/

namespace DexLens.Inspect

open Analysis Descriptor Dex

variable (r : MRef) (text : String)

def attach : Query Unit := do
 let _ <- survey
 modify fun s => { s with attached := true }

def note : Query Unit :=
 modify fun s => { s with file := s.file.modifyMethod r fun m => { m with notes := m.notes ++ [text] } }

/-- Read the code of a method, and remember that. -/
def playback {α : Type} (r : MRef) (m : Playback α) : Query α := do
 let d <- file
 let c <- .of (d.codeOf r)
 let (answer, t) := m.run.run (c.tape d.odex)
 modify fun s => { s with file := s.file.modifyCode r fun c => { c with reads := t.reads, kept := t.kept } }
 .of answer

def noteAt (idx : Int) (off : Option Int) : Query Unit := do
 match (<- file).codeOf? r with
 | none => pure ()
 | some _ =>
  let nb <- match off with
   | some o => playback r (.position o)
   | none => pure idx
  modify fun s => { s with file := s.file.modifyCode r fun c =>
   { c with notes := Usage.upsert c.notes nb (· ++ [text]) [text] } }

def methodIdentifier (m : DexMethod) : String :=
 classIdentifier m.owner ++ "__" ++ nameIdentifier m.title ++ "__" ++ identifier m.sig

def traceFields : Query Unit := do
 attach
 let u := (<- survey).usage
 let d <- file
 let fields <- look File.fields
 let side (a : Access) f := do
  let found <- (f.places.flat.filter (·.1 = a)).mapM fun (_, off, m) => do
   match <- methodAt? m with
   | some r => return (r, off)
   | none => throw .noPart
  return found.foldl (fun acc (r, off) => Usage.upsert acc r (· ++ [off]) [off]) []
 let found <- fields.mapM fun r => do
  let f := d.fieldAt r
  match u.field? f.owner f.title f.sig with
  | none => return (r, (⟨[], [], []⟩ : FieldTraffic))
  | some use =>
   let reads <- side .read use
   let writes <- side .write use
   return (r, ⟨reads, writes, reads.map fun (m, _) => methodIdentifier (d.methodAt m)⟩)
 modify fun s => { s with traffic := found }

def tagTable : List (String × String) :=
 [("ANDROID", "Landroid"), ("TELEPHONY", "Landroid/telephony"), ("SMS", "Landroid/telephony/SmsManager"),
  ("SMSMESSAGE", "Landroid/telephony/SmsMessage"), ("DEBUG", "Landroid/os/Debug")] ++
 (Text.words
  "accessibilityservice accounts animation app bluetooth content database drm gesture graphics hardware
     inputmethodservice location media mtp net nfc opengl os preference provider renderscript sax security service
     speech support test text util view webkit widget").map (fun p => (p.toUpper, "Landroid/" ++ p)) ++
 [("DALVIK_BYTECODE", "Ldalvik/bytecode"), ("DALVIK_SYSTEM", "Ldalvik/system"), ("JAVA_REFLECTION", "Ljava/lang/reflect")]

/-- The tags of a method by the classes that it uses. A light survey has none to give. -/
def tags : Query (List String) := do
 let _ <- flow r
 if (<- survey).light then throw .noPart
 let classes := ((<- usage).packagesOf r).map (·.1)
 return (tagTable.filter fun (_, text) => classes.any (Text.contains · text)).map (·.1)

def hasForeignNames : Query Bool := do
 let d <- file
 return (<- look File.classDefs).any fun c =>
  !Text.isAscii c.title || (d.methodsOf c).any fun r => !Text.isAscii (d.methodAt r).title

end DexLens.Inspect
