import DexLens.Text.Basic

/-! # Access flags and their names -/

namespace DexLens.AccessFlags

variable (value : Int)

def has (weight : Nat) : Bool := value / weight % 2 == 1

def common : List (Nat × String) := [(0x1, "public"), (0x2, "private"), (0x4, "protected"), (0x8, "static"), (0x10, "final")]

def table : List (Nat × String) := common ++
 [(0x20, "synchronized"), (0x40, "bridge"), (0x80, "varargs"), (0x100, "native"), (0x200, "interface"),
  (0x400, "abstract"), (0x800, "strict"), (0x1000, "synthetic"), (0x4000, "enum"), (0x8000, "unused"),
  (0x10000, "constructor"), (0x20000, "synchronized")]

def names (table : List (Nat × String)) (value : Int) : List String :=
 (table.filter fun (weight, _) => has value weight).map (·.2)

def text : String := " ".intercalate (names table value)

def textOrNumber : String :=
 let s := text value
 if s.isEmpty then "0x" ++ Text.hex value else s

end DexLens.AccessFlags
