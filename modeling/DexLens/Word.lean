import DexLens.Text.Basic

/-! # Words of 32 bits and the bytes of whole numbers -/

namespace DexLens.Word

/-- A number above the largest signed word loses all but its lowest 31 bits and becomes negative. -/
def toSigned (v : Int) : Int := if v > 0x7fffffff then v % 0x80000000 - 0x80000000 else v

def bytes (n : Nat) : Bytes := if h : n = 0 then [] else .ofNat (n % 256) :: bytes (n / 256)

end DexLens.Word

/-! # Totals of whole numbers -/

namespace DexLens.Total

def ofNats (ns : List Nat) : Nat := ns.foldr (· + ·) 0

def ofInts (ns : List Int) : Int := ns.foldr (· + ·) 0

end DexLens.Total
