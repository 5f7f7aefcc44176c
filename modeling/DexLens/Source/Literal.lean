import DexLens.AccessFlags
import DexLens.Descriptor

/-! # Literals in decompiled source -/

namespace DexLens.Source

/-- Control characters and the upper half of the bytes as two hexadecimal digits, all else as it is. -/
def literalChar (c : Char) : String :=
 let n := c.toNat
 if n < 32 || 0x80 ≤ n && n ≤ 0xff then "\\x" ++ Text.hexPad 2 n else c.toString

def literal (s : String) : String := s!"\"{String.join (s.toList.map literalChar)}\""

end DexLens.Source

/-! # Types and modifiers in source text -/

namespace DexLens.Source

open AccessFlags

/-- In front of a class of the standard package all letters that occur in the name of that package are dropped. -/
def typeName (desc : String) : Res String := Descriptor.sourceName none desc.toList

def typeName? : Option String -> Res String
 | some s => typeName s
 | none => .error .badKind

def classModifiers : List (Nat × String) := common ++
 [(0x200, "interface"), (0x400, "abstract"), (0x1000, "synthetic"), (0x2000, "annotation"), (0x4000, "enum")]

def fieldModifiers : List (Nat × String) := common ++
 [(0x40, "volatile"), (0x80, "transient"), (0x1000, "synthetic"), (0x4000, "enum")]

def methodModifiers : List (Nat × String) := table.filter fun (bit, _) => !([0x200, 0x4000, 0x8000].contains bit)

end DexLens.Source
