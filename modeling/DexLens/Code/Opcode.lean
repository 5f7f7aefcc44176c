/-! # Opcodes

For each opcode its name, layout and what its index refers to. Two-byte opcodes end in `ff`; a first range of them
is the extended set, a last one occurs in optimized code only.
-/

namespace DexLens.Code

/-- The first figure is the number of 16-bit units, the second the number of registers (`r` for a range of them). -/
inductive Format where
 | f10t | f10x | f11n | f11x | f12x | f20bc | f20t | f21c | f21h | f21s | f21t
 | f22b | f22c | f22cs | f22s | f22t | f22x | f23x | f30t | f31c | f31i | f31t | f32x
 | f35c | f35mi | f35ms | f3rc | f3rmi | f3rms | f40sc | f41c | f51l | f52c | f5rc
 deriving DecidableEq

inductive RefKind where
 | method
 | string
 | field
 | type
 /-- One of the other kinds, told by another operand. -/
 | varies
 | inlineMethod
 | vtableOffset
 | fieldOffset
 | rawString
 deriving DecidableEq

def RefKind.code : RefKind -> Nat
 | method => 0
 | string => 1
 | field => 2
 | type => 3
 | varies => 4
 | inlineMethod => 5
 | vtableOffset => 6
 | fieldOffset => 7
 | rawString => 8

structure Opcode where
 name : String
 format : Format
 kind : Option RefKind

namespace Opcode

variable (op : Nat) (format : Format)

def plain (names : List String) : List Opcode := names.map (⟨·, format, none⟩)

def linked (kind : RefKind) (names : List String) : List Opcode := names.map (⟨·, format, kind⟩)

def sized (stem tail : String) : List String :=
 ["", "-wide", "-object", "-boolean", "-byte", "-char", "-short"].map (stem ++ · ++ tail)

def operators : List String := ["add", "sub", "mul", "div", "rem", "and", "or", "xor", "shl", "shr", "ushr"]

/-- The names of operators on numbers; those on floats have no bits to work on. -/
def arithmetic (tail : String) : List String :=
 [("int", 11), ("long", 11), ("float", 5), ("double", 5)].flatMap fun (type, n) =>
  (operators.take n).map (· ++ "-" ++ type ++ tail)

def groups (gs : List (List Opcode)) : Array Opcode := gs.flatten.toArray

def main : Array Opcode := groups
 [plain .f10x ["nop"], plain .f12x ["move"], plain .f22x ["move/from16"], plain .f32x ["move/16"],
  plain .f12x ["move-wide"], plain .f22x ["move-wide/from16"], plain .f32x ["move-wide/16"],
  plain .f12x ["move-object"], plain .f22x ["move-object/from16"], plain .f32x ["move-object/16"],
  plain .f11x ["move-result", "move-result-wide", "move-result-object", "move-exception"],
  plain .f10x ["return-void"], plain .f11x ["return", "return-wide", "return-object"], plain .f11n ["const/4"],
  plain .f21s ["const/16"], plain .f31i ["const"], plain .f21h ["const/high16"], plain .f21s ["const-wide/16"],
  plain .f31i ["const-wide/32"], plain .f51l ["const-wide"], plain .f21h ["const-wide/high16"],
  linked .f21c .string ["const-string"], linked .f31c .string ["const-string/jumbo"],
  linked .f21c .type ["const-class"], plain .f11x ["monitor-enter", "monitor-exit"],
  linked .f21c .type ["check-cast"], linked .f22c .type ["instance-of"], linked .f12x .type ["array-length"],
  linked .f21c .type ["new-instance"], linked .f22c .type ["new-array"], linked .f35c .type ["filled-new-array"],
  linked .f3rc .type ["filled-new-array/range"], plain .f31t ["fill-array-data"], plain .f11x ["throw"],
  plain .f10t ["goto"], plain .f20t ["goto/16"], plain .f30t ["goto/32"], plain .f31t ["packed-switch",
  "sparse-switch"], plain .f23x ["cmpl-float", "cmpg-float", "cmpl-double", "cmpg-double", "cmp-long"],
  plain .f22t ["if-eq", "if-ne", "if-lt", "if-ge", "if-gt", "if-le"], plain .f21t ["if-eqz", "if-nez", "if-ltz",
  "if-gez", "if-gtz", "if-lez"], plain .f10x ["nop", "nop", "nop", "nop", "nop", "nop"],
  plain .f23x (sized "aget" "" ++ sized "aput" ""), linked .f22c .field (sized "iget" "" ++ sized "iput" ""),
  linked .f21c .field (sized "sget" "" ++ sized "sput" ""), linked .f35c .method ["invoke-virtual", "invoke-super",
  "invoke-direct", "invoke-static", "invoke-interface"], plain .f10x ["nop"],
  linked .f3rc .method ["invoke-virtual/range", "invoke-super/range", "invoke-direct/range", "invoke-static/range",
  "invoke-interface/range"], plain .f10x ["nop", "nop"], plain .f12x ["neg-int", "not-int", "neg-long", "not-long",
  "neg-float", "neg-double", "int-to-long", "int-to-float", "int-to-double", "long-to-int", "long-to-float",
  "long-to-double", "float-to-int", "float-to-long", "float-to-double", "double-to-int", "double-to-long",
  "double-to-float", "int-to-byte", "int-to-char", "int-to-short"], plain .f23x (arithmetic ""),
  plain .f12x (arithmetic "/2addr"), plain .f22s ["add-int/lit16", "rsub-int", "mul-int/lit16", "div-int/lit16",
  "rem-int/lit16", "and-int/lit16", "or-int/lit16", "xor-int/lit16"],
  plain .f22b ((operators.set 1 "rsub").map (· ++ "-int/lit8")), linked .f22c .field ["iget-volatile",
  "iput-volatile"], linked .f21c .field ["sget-volatile", "sput-volatile"],
  linked .f22c .field ["iget-object-volatile", "iget-wide-volatile", "iput-wide-volatile"],
  linked .f21c .field ["sget-wide-volatile", "sput-wide-volatile"], plain .f10x ["breakpoint"],
  linked .f20bc .varies ["throw-verification-error"], linked .f35mi .inlineMethod ["execute-inline"],
  linked .f3rmi .inlineMethod ["execute-inline/range"], linked .f35c .method ["invoke-object-init/range"],
  plain .f10x ["return-void-barrier"], linked .f22cs .fieldOffset ["iget-quick", "iget-wide-quick",
  "iget-object-quick", "iput-quick", "iput-wide-quick", "iput-object-quick"],
  linked .f35ms .vtableOffset ["invoke-virtual-quick"], linked .f3rms .vtableOffset ["invoke-virtual-quick/range"],
  linked .f35ms .vtableOffset ["invoke-super-quick"], linked .f3rms .vtableOffset ["invoke-super-quick/range"],
  linked .f22c .field ["iput-object-volatile"], linked .f21c .field ["sget-object-volatile",
  "sput-object-volatile"]]

def extended : Array Opcode := groups
 [linked .f41c .type ["const-class/jumbo", "check-cast/jumbo"], linked .f52c .type ["instance-of/jumbo"],
  linked .f41c .type ["new-instance/jumbo"], linked .f52c .type ["new-array/jumbo"],
  linked .f5rc .type ["filled-new-array/jumbo"],
  linked .f52c .field (sized "iget" "/jumbo" ++ sized "iput" "/jumbo"),
  linked .f41c .field (sized "sget" "/jumbo" ++ sized "sput" "/jumbo"),
  linked .f5rc .method ["invoke-virtual/jumbo", "invoke-super/jumbo", "invoke-direct/jumbo", "invoke-static/jumbo",
  "invoke-interface/jumbo"]]

def optimized : Array Opcode := groups
 [linked .f5rc .method ["invoke-object-init/jumbo"], linked .f52c .field ["iget-volatile/jumbo",
  "iget-wide-volatile/jumbo", "iget-object-volatile/jumbo ", "iput-volatile/jumbo", "iput-wide-volatile/jumbo",
  "iput-object-volatile/jumbo"], linked .f41c .field ["sget-volatile/jumbo", "sget-wide-volatile/jumbo",
  "sget-object-volatile/jumbo", "sput-volatile/jumbo", "sput-wide-volatile/jumbo", "sput-object-volatile/jumbo"],
  linked .f40sc .varies ["throw-verification-error/jumbo"]]

def extended? : Option Opcode := if op % 256 = 255 then extended[op / 256]? else none

def optimized? : Option Opcode := if op % 256 = 255 && 0xf2 ≤ op / 256 then optimized[op / 256 - 0xf2]? else none

/-- A number below 256 is always looked up among the one-byte opcodes, so `00ff` has none. -/
def find? : Option Opcode := if op > 0xff then if op ≥ 0xf2ff then optimized? op else extended? op else main[op]?

end Opcode

def inlineMethods : Array (String × String × String) :=
 ([("Lorg/apache/harmony/dalvik/NativeTestTarget;", [("emptyInlineMethod", "()V")]),
  ("Ljava/lang/String;", [("charAt", "(I)C"), ("compareTo", "(Ljava/lang/String;)I"),
   ("equals", "(Ljava/lang/Object;)Z"), ("fastIndexOf", "(II)I"), ("isEmpty", "()Z"), ("length", "()I")]),
  ("Ljava/lang/Math;", [("abs", "(I)I"), ("abs", "(J)J"), ("abs", "(F)F"), ("abs", "(D)D"), ("min", "(II)I"),
   ("max", "(II)I"), ("sqrt", "(D)D"), ("cos", "(D)D"), ("sin", "(D)D")]),
  ("Ljava/lang/Float;", [("floatToIntBits", "(F)I"), ("floatToRawIntBits", "(F)I"), ("intBitsToFloat", "(I)F")]),
  ("Ljava/lang/Double;", [("doubleToLongBits", "(D)J"), ("doubleToRawLongBits", "(D)J"),
   ("longBitsToDouble", "(J)D")])].flatMap fun (cls, ms) => ms.map (cls, ·)).toArray

end DexLens.Code
