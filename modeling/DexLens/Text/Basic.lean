/-! # Text

Byte strings are text whose characters are all below 256.
-/

namespace DexLens.Text

open String

variable (s : String) (width : Nat) (i : Int) (set s : String) (base : Nat) (c : Char)

def isBlank : Bool :=
 let n := c.toNat
 9 ≤ n && n ≤ 13 || 28 ≤ n && n ≤ 32 || n == 0x85 || n == 0xa0 || n == 0x1680 ||
  0x2000 ≤ n && n ≤ 0x200a || n == 0x2028 || n == 0x2029 || n == 0x202f || n == 0x205f || n == 0x3000

def dropLeading? : List Char -> List Char -> Option (List Char)
 | [], s => some s
 | _ :: _, [] => none
 | p :: ps, c :: cs => if p = c then dropLeading? ps cs else none

/-- Cut at the first place where `sep` stands: what is before it and what is after it. -/
def cutList? (sep : List Char) : List Char -> Option (List Char × List Char)
 | [] => if sep.isEmpty then some ([], []) else none
 | c :: cs =>
  match dropLeading? sep (c :: cs) with
  | some rest => some ([], rest)
  | none => (cutList? sep cs).map fun (before, after) => (c :: before, after)

def cut? (s sep : String) : Option (String × String) := (cutList? sep.toList s.toList).map fun (a, b) => (ofList a, ofList b)

def stripList (s : List Char) : List Char := ((s.dropWhile isBlank).reverse.dropWhile isBlank).reverse

def strip : String := ofList (stripList s.toList)

def stripFront : String := ofList (s.toList.dropWhile set.toList.contains)

def stripBack : String := ofList (s.toList.reverse.dropWhile set.toList.contains).reverse

def splitAt (sep : Char) : List Char -> List (List Char)
 | [] => [[]]
 | c :: cs =>
  let rest := splitAt sep cs
  if c = sep then [] :: rest
  else match rest with
   | [] => [[c]]
   | piece :: more => (c :: piece) :: more

def split (sep : Char) (s : String) : List String := (splitAt sep s.toList).map ofList

/-- The pieces of `s` between the occurrences of the text `sep`, which must not be empty. -/
def splitOnText (sep s : String) : List String :=
 let rec go : Nat -> List Char -> List String
  | 0, cs => [ofList cs]
  | fuel + 1, cs =>
   match cutList? sep.toList cs with
   | some (a, b) => ofList a :: go fuel b
   | none => [ofList cs]
 go s.length s.toList

def words : List String :=
 let step c (acc : List Char × List String) : List Char × List String :=
  if isBlank c then
   match acc.1 with
   | [] => acc
   | w => ([], ofList w :: acc.2)
  else (c :: acc.1, acc.2)
 match s.toList.foldr step ([], []) with
 | ([], ws) => ws
 | (w, ws) => ofList w :: ws

def replace (s old new : String) : String := new.intercalate (splitOnText old s)

def replaceChar (old : Char) (new : String) : String := new.intercalate (split old s)

section

variable (fill : Char) (n m : Nat) (s p : String)

def inside : String :=
 let cs := s.toList
 ofList ((cs.take (cs.length - m)).drop n)

def contains : Bool := (cutList? p.toList s.toList).isSome

def startsWith : Bool := (dropLeading? p.toList s.toList).isSome

def times : String := join (.replicate n s)

def padRight : String := s ++ times (width - s.length) " "

def padLeft : String := ofList (.replicate (width - s.length) fill) ++ s

def hexNat : String := ofList (Nat.toDigits 16 n)

end

def hex : String := if i < 0 then "-" ++ hexNat i.natAbs else hexNat i.natAbs

def signedHex : String := if i < 0 then "-" ++ hexNat i.natAbs else "+" ++ hexNat i.natAbs

def hexPad : String := if i < 0 then "-" ++ padLeft (width - 1) '0' (hexNat i.natAbs) else padLeft width '0' (hexNat i.natAbs)

def dec : String := toString i

def digit? : Option Nat :=
 if '0' ≤ c && c ≤ '9' then some (c.toNat - 48)
 else if 'a' ≤ c && c ≤ 'z' then some (c.toNat - 87)
 else if 'A' ≤ c && c ≤ 'Z' then some (c.toNat - 55)
 else none

def digits? : List Char -> Option Nat
 | [] => none
 | cs => go cs 0 false
where
 go : List Char -> Nat -> Bool -> Option Nat
  | [], acc, afterDigit => if afterDigit then some acc else none
  | c :: cs, acc, afterDigit =>
   if c = '_' then if afterDigit then go cs acc false else none
   else match digit? c with
    | some d => if d < base then go cs (acc * base + d) true else none
    | none => none

def intBase? (s : String) : Option Int :=
 match stripList s.toList with
 | '-' :: cs => (digits? base cs).map fun n => -(n : Int)
 | '+' :: cs | cs => (digits? base cs).map .ofNat

def int? : Option Int := intBase? 10 s

def upper : String := s.map .toUpper

def isAscii : Bool := s.toList.all (·.toNat < 128)

end DexLens.Text

/-! # Text in quotes

Both ways prefer single quotes. Byte strings show only printable ASCII as it is, general text every printable
character.
-/

namespace DexLens.Text

variable (s : String)

def quoteFor : Char := if s.toList.contains '\'' && !s.toList.contains '"' then '"' else '\''

def quotedCommon? (quote c : Char) : Option String :=
 if c = quote || c = '\\' then "\\" ++ c.toString
 else if c = '\t' then "\\t"
 else if c = '\n' then "\\n"
 else if c = '\r' then "\\r"
 else if 32 ≤ c.toNat && c.toNat < 127 then c.toString
 else if c.toNat < 127 then "\\x" ++ hexPad 2 c.toNat
 else none

def quotedBytes : String :=
 let q := quoteFor s
 let body := s.toList.map fun c => (quotedCommon? q c).getD ("\\x" ++ hexPad 2 c.toNat)
 q.toString ++ .join body ++ q.toString

def isUnprintable (c : Char) : Bool :=
 let n := c.toNat
 n ≤ 0xa0 || n == 0xad || 0x378 ≤ n && n ≤ 0x379 || 0x600 ≤ n && n ≤ 0x605 || n == 0x61c || n == 0x6dd ||
  n == 0x70f || n == 0x1680 || n == 0x180e || 0x2000 ≤ n && n ≤ 0x200f || 0x2028 ≤ n && n ≤ 0x202f ||
  0x205f ≤ n && n ≤ 0x206f || n == 0x3000 || 0xe000 ≤ n && n ≤ 0xf8ff || n == 0xfeff ||
  0xfff0 ≤ n && n ≤ 0xfffb || 0xfffe ≤ n && n ≤ 0xffff || 0xe0000 ≤ n

def quoted : String :=
 let q := quoteFor s
 let body := s.toList.map fun c =>
  (quotedCommon? q c).getD
   (let n := c.toNat
    if !isUnprintable c then c.toString
    else if n < 0x100 then "\\x" ++ hexPad 2 n
    else if n < 0x10000 then "\\u" ++ hexPad 4 n
    else "\\U" ++ hexPad 8 n)
 q.toString ++ .join body ++ q.toString

end DexLens.Text

/-! # Bytes and their hexadecimal text -/

namespace DexLens

open UInt8

abbrev Bytes := List UInt8

namespace Bytes

variable (bs : Bytes) (s : String)

def toHex : String := .ofList (bs.flatMap fun b => [Nat.digitChar (b.toNat / 16), Nat.digitChar (b.toNat % 16)])

def ofHexList? : List Char -> Option Bytes
 | [] => some []
 | [c] => if asciiBlank c then some [] else none
 | a :: b :: rest =>
  if asciiBlank a then ofHexList? (b :: rest)
  else match Text.digit? a, Text.digit? b with
   | some x, some y => if x < 16 && y < 16 then (ofHexList? rest).map (ofNat (16 * x + y) :: ·) else none
   | _, _ => none
where
 asciiBlank c : Bool := c = ' ' || (9 ≤ c.toNat && c.toNat ≤ 13)

def ofHex? : Option Bytes := ofHexList? s.toList

def toText : String := .ofList (bs.map (.ofNat ·.toNat))

def ofText? : Option Bytes := s.toList.mapM fun c => if c.toNat < 256 then (ofNat c.toNat) else none

def toNatLE : Bytes -> Nat
 | [] => 0
 | b :: bs => b.toNat + 256 * toNatLE bs

def ofNatLE : Nat -> Nat -> Bytes
 | 0, _ => []
 | n + 1, v => ofNat (v % 256) :: ofNatLE n (v / 256)

def ofWords (ns : List Nat) : Bytes := ns.flatMap (ofNatLE 4)

def ofTexts (ss : List String) : Bytes := ss.flatMap fun s => ofNat s.length :: s.toList.map (ofNat ·.toNat) ++ [0]

def toIntLE : Int :=
 let v := toNatLE bs
 let bits := 8 * bs.length
 if bits ≠ 0 ∧ .pow 2 (bits - 1) ≤ v then v - Nat.pow 2 bits else v

def ofIntLE (n : Nat) (v : Int) : Bytes := ofNatLE n (v % Nat.pow 256 n).toNat

end Bytes

end DexLens
