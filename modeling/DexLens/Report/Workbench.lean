import DexLens.FileKind
import DexLens.Inspect.References
import DexLens.Inspect.Rename
import DexLens.Inspect.Show
import DexLens.Report.File

/-! # Requests

A function is asked by the list of its arguments: wrong ones fail before anything happens.
-/

namespace DexLens.Report

open Dex Inspect Json

class Arg (α : Type) where
 arg : Json -> Option α

instance : Arg Json := ⟨some⟩
instance : Arg String := ⟨str?⟩
instance : Arg Int := ⟨int?⟩

class Act (σ α : Type) where
 act : ExceptT Fault (StateM σ) α -> List Json -> Option (ExceptT Fault (StateM σ) Json)

export Arg (arg)
export Act (act)

variable {σ α β : Type}

instance : Reply Unit := ⟨fun _ => .null⟩

instance [Reply α] : Act σ (ExceptT Fault (StateM σ) α) where
 act q xs := if xs.isEmpty then some do return json (<- <- q) else none

instance [Arg α] [Act σ β] : Act σ (α -> β) where
 act q
 | [] => none
 | x :: xs => (arg x).bind fun a => act ((· a) <$> q) xs

instance [Reply α] : Act Inspection (File -> Res α) := ⟨fun q => act (look <$> q)⟩

def does [Act σ α] (f : α) (xs : List Json) : ExceptT Fault (StateM σ) Json :=
 (act (pure f) xs).getD (throw .badKind)

def only [Reply α] (q : ExceptT Fault (StateM σ) α) : List Json -> ExceptT Fault (StateM σ) Json := does q

/-! # Members of a file in reports -/

open File Pattern

variable (p : String)

def methods (f : File -> Res (List MRef)) : Query (List Json) := return (<- look f).map (method (<- file))

def fields (f : File -> Res (List FieldRef)) : Query (List Json) := return (<- look f).map (field (<- file))

def methodsLike : Query (List Json) := do
 let re <- pattern p
 methods fun d => return (<- d.methods).filter fun r => matchesStart re (d.methodAt r).title

def fieldsLike : Query (List Json) := do
 let re <- pattern p
 fields fun d => return (<- d.fields).filter fun r => matchesStart re (d.fieldAt r).title

def stringsLike : Query (List String) := do
 let re <- pattern p
 return (<- look strings).filter (matchesStart re ·)

def methodNamed (cls name desc : String) : Query Json :=
 return (<- method? (cls ++ name ++ desc)).map (method (<- file))

def fieldNamed (cls name type : String) : Query Json :=
 return (<- look (·.fieldNamed? cls name type)).map (field (<- file))

def methodNumbered (i : Int) : Query Json := do
 if i < 0 then return .null
 return (<- methodAt? i.toNat).map (method (<- file))

def formatName : Query String := return if (<- file).odex then "ODEX" else "DEX"

/-! # Several files on one bench

Questions are passed on to all files. If a bench was opened for a single file, questions that it does not know go to
that file.
-/

open List Res

def kind (name : String) : Json := .obj [("obj", name)]

def kinds : List (String × String) :=
 [("get_class_manager", "ClassManager"), ("get_classes_def_item", "ClassHDefItem"),
  ("get_methods_id_item", "MethodHIdItem"), ("get_fields_id_item", "FieldHIdItem"), ("get_codes_item", "CodeItem"),
  ("get_debug_info_item", "DebugInfoItemEmpty"), ("get_header_item", "HeaderItem"),
  ("get_DVM_TOSTRING", "DVM_TOSTRING")]

def classTitled (c : Json) : Query Json := return if (<- look classDefs).any (c.str? == some ·.title) then c else .null

def attached (q : Query Unit) : Query Unit := do if (<- get).attached then q else throw .noPart

def askFile : String -> List Json -> Query Json
 | "get_class" => does classTitled
 | "get_method" => does methodsLike
 | "get_field" => does fieldsLike
 | "get_regex_strings" => does stringsLike
 | "get_methods_class" => does fun c => methods (·.methodsOwnedBy c)
 | "get_fields_class" => does fun c => fields (·.fieldsOwnedBy c)
 | "get_methods_descriptor" => does fun c n => methods (·.methodsNamed c n)
 | "get_method_descriptor" => does methodNamed
 | "get_field_descriptor" => does fieldNamed
 | "get_method_by_idx" => does fun (i : Json) => i.int?.elim (pure .null) methodNumbered
 | "get_cm_field" => does (lookup "field")
 | "get_cm_method" => does (lookup "method")
 | "get_cm_string" => does (lookup "raw_string")
 | "get_cm_type" => does (lookup "type")
 | "get_classes_names" => only classNames
 | "get_classes" => only do return (<- look classDefs).map ClassDef.title
 | "get_methods" => only (methods File.methods)
 | "get_fields" => only (fields File.fields)
 | "get_len_methods" => only do return (<- look File.methods).length
 | "get_strings" => does strings
 | "get_all_fields" => only do return (<- file).mentionedFields.map fun _ => kind "FieldIdItem"
 | "get_format_type" => only formatName
 | "get_buff" => only do return (<- look loadedBytes).toText
 | "length_buff" => only do return (<- look loadedBytes).length
 | "get_determineNext" => only (return obj [("fn", "determineNext")])
 | "get_determineException" => only (return obj [("fn", "determineException")])
 | "print_classes_hierarchy" => does Hierarchy.listing
 | "list_classes_hierarchy" => does hierarchy
 | "create_python_export" => only exportAll
 | "create_dref" => only (attached traceFields)
 | "create_xref" => only (attached (crossReference none))
 | "show" | "pretty_show" => only showFile
 | "save" => only do return (<- change save).toText
 | name => (kinds.lookup name).elim (fun _ => throw .noPart) fun k => only (return kind k)

structure Opened where
 name : String
 state : Inspection
 analysed : Bool := false

def Opened.format (o : Opened) : String := if o.state.file.odex then "DalvikOdexVMFormat" else "DalvikVMFormat"

structure Workbench where
 files : List (String × Bytes)
 needs : Needs
 /-- The open files; none before anything was opened. -/
 opened : Option (List Opened) := none
 names : List String := []
 single : Bool := false

abbrev Bench := ExceptT Fault (StateM Workbench)

namespace Bench

variable (i : Nat) (name : String) (args : List Json) (q : Query α)

def blob : Bench Bytes := do opt .noSuchFile ((<- get).files.lookup name)

def openFile : Bench Opened := do
 let bytes <- blob name
 let start odex := do return { name, state := .start (<- load odex false bytes) (<- get).needs true }
 match FileKind.ofBytes? bytes with
 | some .dex => start false
 | some .optimizedDex => start true
 | some .native => throw .missingComponent
 | some .archive => throw .noPart
 | _ => throw .badKind

def openAll (names : List String) (single : Bool) : Bench Unit := do
 names.forM fun n => discard (blob n)
 let opened <- names.mapM openFile
 modify fun b => { b with opened, names, single }

def opened : Bench (List Opened) := do opt .noKey (<- get).opened

def nth (i : Int) : Bench Nat := do
 let n := (<- opened).length
 let k := if i < 0 then i + n else i
 if k < 0 then throw .beyond else return k.toNat

def pick : Bench Opened := do opt .beyond (<- opened)[i]?

def on : Bench α := do
 let o <- pick i
 let (r, s) := q.run.run o.state
 let os <- opened
 modify fun b => { b with opened := (os.set i { o with state := s }) }
 r

def onAll (f : Nat -> Bench α) : Bench (List α) := do (range (<- opened).length).mapM f

def analyse : Bench Unit := do
 on i (modify fun s => { s with survey := none, light := true })
 on i attach
 let os <- opened
 modify fun b => { b with opened := (os.modify i fun o => { o with analysed := true }) }
 on i do
  crossReference none
  traceFields

/-- What a question brings, one by one. A class or a method is a single thing. -/
def gets : Bench (List Json) := on i do
 match <- askFile ("get_" ++ name) args, name with
 | _, "class" | _, "method_by_idx" => throw .badKind
 | .arr xs, _ => return xs
 | .str s, _ => return s.toList.map (·.toString)
 | _, _ => throw .badKind

def member (q : Query Json) : Bench Json := do
 let found <- (range (<- opened).length).foldlM (fun found i =>
  if found matches .null then on i q else pure found) .null
 return (found, !found matches .null)

def find? : Bench (Option Nat) := return (<- opened).findIdx? (·.name == name)

def firstBytes : Bench String := return Bytes.toHex ((<- blob name).take 8)

def askOne : Bench Json := do
 let o <- pick i
 match name with
 | "get_vm" => only (return kind o.format) args
 | "get_analysis" => only (if o.analysed then return kind "uVMAnalysis" else throw .noPart) args
 | "analyze" => only (analyse i) args
 | "gets" => does (gets i · []) args
 | "get" => does (fun n x => gets i n [x]) args
 | "insert_direct_method" => throw (if args.length = 2 then .noPart else .badKind)
 | "insert_craft_method" => throw (if args.length = 3 then .noPart else .badKind)
 | _ => on i (askFile name args)

def ask : Bench Json := do
 let b <- get
 let os <- opened
 match b.single, name, args with
 | true, "get_vm", [] => return kind ((os.head?.map Opened.format).getD "")
 | true, "get_orig_raw", [] => return (<- blob (b.names.headD "")).toText
 | _, "get", [.str "file", .str n] => return if (<- find? n).isSome then kind "BC" else .null
 | _, "ianalyze", _ => only (discard (onAll analyse)) args
 | _, "get_class", _ => does (fun (_ : Json) => (pure .null : Bench Json)) args
 | _, "get_raw", _ => only (if os.isEmpty then return arr [] else throw .noPart) args
 | _, "get_method_descriptor", _ => does (fun c n d => member (methodNamed c n d)) args
 | _, "get_field_descriptor", _ => does (fun c n d => member (fieldNamed c n d)) args
 | _, "gets", _ => does (fun n => flatten <$> onAll (gets · n [])) args
 | _, "get", _ => does (fun n x => flatten <$> onAll (gets · n [x])) args
 | _, "get_vms", _ => only (return os.map (kind ·.format)) args
 | _, "get_bc", _ => only (return os.map (·.name, kind "BC")) args
 | _, "get_orig_raw", _ =>
  only (do return table (<- b.names.eraseDups.mergeSort.mapM fun n => return (n, json (<- blob n).toText))) args
 | _, "show", _ | _, "pretty_show", _ => throw .badKind
 | single, _, _ => if single then askOne 0 name args else throw .noPart

def step : Json -> Bench Json
 | .arr [.str "new", .arr names] => do
  openAll (<- opt .badKind (names.mapM str?)) false
  return (<- opened).map (·.name)
 | .arr [.str "single", .str name] => do
  openAll [name] true
  return (<- firstBytes name, ((<- opened).head?.map Opened.format).getD "")
 | .arr [.str "show"] | .arr [.str "pretty_show"] => do return String.join (<- onAll (on · showFile))
 | .arr [.str "save"] => do
  let _ <- opened
  if !(<- get).single then throw .noPart
  return (<- on 0 (change save)).toHex
 | .arr [.str "vms"] => do return (<- opened).map Opened.format
 | .arr [.str "orig_raw"] => do
  let _ <- opened
  let b <- get
  if b.single then return <- firstBytes (b.names.headD "")
  return <- b.names.eraseDups.mapM fun n => return (n, <- firstBytes n)
 | .arr [.str "file", .str name] => do
  let some i <- find? name | return .null
  return (<- gets i "classes" [], (<- pick i).format)
 | .arr [.str "analysis", .int i] => do
  if (<- pick (<- nth i)).analysed then return "uVMAnalysis" else throw .noPart
 | .arr (.str "bc" :: .int i :: .str name :: args) => do askOne (<- nth i) name args
 | .arr (.str name :: args) => ask name args
 | _ => throw .badRequest

end Bench

end DexLens.Report
