import DexLens.AccessFlags
import DexLens.Descriptor
import DexLens.Dex.Debug
import DexLens.Dex.Members

/-! # Listings of items

Every kind of item has a heading and a few lines with its fields.
-/

namespace DexLens.Listing

open Descriptor Dex String Text

def heading (title : String) : String := times 10 "#" ++ s!" {title}\n"

def rule : String := times 20 "#" ++ "\n"

def banner : String := times 75 "*" ++ "\n"

def hex (n : Nat) : String := hexNat n

def quotedName (s : Option String) : String := (s.map quoted).getD "None"

def bracketed (xs : List String) : String := "[" ++ ", ".intercalate xs ++ "]"

def tupled (xs : List String) : String := "(" ++ ", ".intercalate xs ++ ")"

def proto : ProtoNames -> String
 | .unknown => "None"
 | .parts p r => bracketed [quotedName p, quotedName r]
 | .whole s => s

def header (h : Header) : String :=
 heading "Header Item" ++
 s!"magic={h.magic}, checksum={h.checksum}, signature={h.sig.toText}\n" ++
 s!"file_size={hex h.fileSize}, header_size={hex h.headerSize}, endian_tag={hex h.endianTag}\n" ++
 s!"link_size={hex h.linkSize}, link_off={hex h.linkOff}\n" ++
 s!"map_off={hex h.mapOff}\n" ++
 s!"string_ids_size={hex h.stringIdsSize}, string_ids_off={hex h.stringIdsOff}\n" ++
 s!"type_ids_size={hex h.typeIdsSize}, type_ids_off={hex h.typeIdsOff}\n" ++
 s!"proto_ids_size={hex h.protoIdsSize}, proto_ids_off={hex h.protoIdsOff}\n" ++
 s!"field_ids_size={hex h.fieldIdsSize}, field_ids_off={hex h.fieldIdsOff}\n" ++
 s!"method_ids_size={hex h.methodIdsSize}, method_ids_off={hex h.methodIdsOff}\n" ++
 s!"class_defs_size={hex h.classDefsSize}, class_defs_off={hex h.classDefsOff}\n" ++
 s!"data_size={hex h.dataSize}, data_off={hex h.dataOff}\n"

def stringId (x : StringId) : String := heading "String Id Item" ++ s!"string_data_off={hex x.dataOff}\n"

def typeId (x : TypeId) : String :=
 heading "Type Id Item" ++ s!"descriptor_idx={x.descriptorIdx} descriptor_idx_value={File.shown x.value}\n"

def protoId (x : ProtoId) : String :=
 heading "Proto Item" ++ s!"shorty_idx={x.shortyIdx} return_type_idx={x.returnIdx} parameters_off={x.parametersOff}\n" ++
  s!"shorty_idx_value={File.shown x.shorty} return_type_idx_value={File.shown x.result} parameters_off_value={File.shown x.parameters}\n"

def fieldId (x : FieldId) : String :=
 heading "Field Id Item" ++ s!"class_idx={x.classIdx} type_idx={x.typeIdx} name_idx={x.nameIdx}\n" ++
  s!"class_idx_value={File.shown x.names.cls} type_idx_value={File.shown x.names.type} name_idx_value={File.shown x.names.name}\n"

def methodId (x : MethodId) : String :=
 heading "Method Id Item" ++ s!"class_idx={x.classIdx} proto_idx={x.protoIdx} name_idx={x.nameIdx}\n" ++
  s!"class_idx_value={File.shown x.names.cls} proto_idx_value={proto x.names.proto} name_idx_value={File.shown x.names.name}\n"

def typeList (x : TypeList) : String :=
 heading "Type List" ++ s!"size={x.types.length}\n" ++ join (x.types.map fun t => heading "Type Item" ++ s!"type_idx={t}\n")

def noteSet (x : AnnotationSet) : String :=
 heading "Annotation Set Item" ++
  join (x.entries.map fun off => heading "Annotation Off Item" ++ s!"annotation_off=0x{hex off}\n")

def noteRefs (x : AnnotationSetRefs) : Res String :=
 if x.entries.isEmpty then .ok (heading "Annotation Set Ref List Item") else .error .noPart

def noteDir (x : AnnotationDirectory) : String :=
 let pairs title key (ps : List (Nat × Nat)) :=
  join (ps.map fun (i, off) => heading title ++ s!"{key}=0x{hex i} annotations_off=0x{hex off}\n")
 heading "Annotations Directory Item" ++
  s!"class_annotations_off=0x{hex x.classOff} annotated_fields_size={x.fields.length} annotated_methods_size={x.methods.length} annotated_parameters_size={x.parameters.length}\n" ++
  pairs "Field Annotation" "field_idx" x.fields ++
  pairs "Method Annotation" "method_idx" x.methods ++
  pairs "Parameter Annotation" "method_idx" x.parameters

def value (v : EncodedValue) : String :=
 heading "Encoded Value" ++ s!"val={hex v.head} value_arg={hex v.arg} value_type={hex v.tag}\n"

def noteItem (x : AnnotationItem) : String :=
 heading "Annotation Item" ++ s!"visibility={x.visibility}\n" ++
  heading "Encoded Annotation" ++ s!"type_idx={x.body.type} size={x.body.elements.length}\n" ++
  join (x.body.elements.map fun (n, v) => heading "Annotation Element" ++ s!"name_idx={n}\n" ++ value v)

def encodedArray (x : EncodedArrayItem) : String :=
 heading "Encoded Array Item" ++ heading "Encoded Array" ++ s!"size={x.values.length}\n" ++ join (x.values.map value)

def stringData (x : StringData) : String :=
 heading "String Data Item" ++ s!"utf16_size={x.utf16Size} data={Text.quotedBytes (Bytes.toText x.data)}\n"

def constant : EncodedValue -> String
 | .number _ raw => toString (EncodedValue.decode raw)
 | .string _ _ s | .type _ _ s => s
 | .field _ _ n => bracketed [quotedName n.cls, quotedName n.type, quotedName n.name]
 | .method _ _ n => bracketed [quotedName n.cls, quotedName n.name, match n.proto with
  | .whole s => quoted s
  | p => proto p]
 | .array _ _ => "array"
 | .annotated _ _ _ => "annotation"
 | .byte _ raw => raw.toText
 | .null _ => "None"
 | .truth _ b => if b then "True" else "False"

def fieldHead (f : DexField) : String :=
 heading "Field Information" ++ s!"{f.owner}->{f.title} {f.sig} [access_flags={AccessFlags.textOrNumber f.flags}]\n" ++
  if let some v := f.init then s!"\tinit value: {constant v}\n" else ""

def methodHead (m : DexMethod) : String :=
 heading "Method Information" ++ s!"{m.owner}->{m.title}{m.sig} [access_flags={AccessFlags.textOrNumber m.flags}]\n" ++
  if m.notes.isEmpty then ""
  else heading "Notes" ++ join (m.notes.map fun n => s!"# {n}\n") ++ rule

def regs (count : Int) (desc : String) : Res String := do
 let (body, result) <- parameterLines desc "" " " count
 return heading "Params" ++ body ++ result ++ rule

def classDef (c : ClassDef) : String :=
 heading "Class Def Item" ++
  s!"name={c.title}, sname={c.parent}, interfaces={File.shown c.interfaces}, access_flags={AccessFlags.textOrNumber c.flags}\n" ++
  s!"class_idx={c.classIdx}, superclass_idx={c.superIdx}, interfaces_off={hex c.interfacesOff}, source_file_idx={c.sourceIdx}, annotations_off={hex c.annotationsOff}, class_data_off={hex c.dataOff}, static_values_off={hex c.valuesOff}\n"

def debug (d : File) (info : DebugInfo) : Res String := do
 let names <- info.names.zipIdx.mapM fun (i, nb) => return s!"parameter_names[{nb}]={<- d.string i}\n"
 let steps <- info.steps.mapM fun s => do
  let fmt := bracketed (s.operands.map fun o => tupled [toString o.value, quoted o.encoding])
  let v <- s.variable d
  return heading "DBGBytecode" ++ s!"op_value={hex s.op} format={fmt} value={File.shown v}\n"
 return heading "Debug Info Item" ++ s!"line_start={info.lineStart} parameters_size={info.names.length}\n" ++
  join names ++ join steps

end DexLens.Listing
