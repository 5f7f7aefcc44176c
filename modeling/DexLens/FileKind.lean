import DexLens.Text.Basic

/-! # What a file is, by its first bytes -/

namespace DexLens

inductive FileKind where
 | archive
 | dex
 | optimizedDex
 | native
 | binaryXml
 | resources
 deriving DecidableEq

namespace FileKind

def name : FileKind -> String
 | archive => "APK"
 | dex => "DEX"
 | optimizedDex => "DEY"
 | native => "ELF"
 | binaryXml => "AXML"
 | resources => "ARSC"

/-- The bytes with which each kind of file starts, in the order in which they are tried. -/
def signatures : List (Bytes × FileKind) :=
 [([0x50, 0x4b], archive), ([0x64, 0x65, 0x78], dex), ([0x64, 0x65, 0x79], optimizedDex),
  ([0x7f, 0x45, 0x4c, 0x46, 1, 1, 1], native), ([3, 0, 8, 0], binaryXml), ([2, 0, 12, 0], resources)]

def ofBytes? (blob : Bytes) : Option FileKind := (signatures.find? fun (sig, _) => sig.isPrefixOf blob).map (·.2)

def mentionsCode (blob : Bytes) : Bool := Text.contains blob.toText "classes.dex"

end FileKind

end DexLens
