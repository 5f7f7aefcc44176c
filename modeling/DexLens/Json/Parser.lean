import DexLens.Json.Basic

/-! # Reading JSON

Besides the standard forms the reader knows `NaN`, `Infinity` and `-Infinity`.
-/

namespace DexLens.Json

open Char Text

def skipBlanks (cs : List Char) : List Char := cs.dropWhile fun c => c = ' ' || c = '\n' || c = '\t' || c = '\r'

def unit? : List Char -> Option (Nat × List Char)
 | a :: b :: c :: d :: rest => do
  let (some w, some x, some y, some z) := (digit? a, digit? b, digit? c, digit? d) | none
  if w < 16 && x < 16 && y < 16 && z < 16 then some (((w * 16 + x) * 16 + y) * 16 + z, rest) else none
 | _ => none

def ofSurrogates (hi lo : Nat) : Char := ofNat (0x10000 + (hi - 0xd800) * 0x400 + (lo - 0xdc00))

/-- The second half of a pair is joined to an escaped unit, and a half that stands alone becomes the replacement
    character. -/
def afterUnit (n : Nat) (rest : List Char) : Char × List Char :=
 if 0xd800 ≤ n && n < 0xdc00 then
  if let '\\' :: 'u' :: more := rest then
   match unit? more with
   | some (m, rest') => if 0xdc00 ≤ m && m < 0xe000 then (ofSurrogates n m, rest') else (ofNat 0xfffd, rest)
   | none => (ofNat 0xfffd, rest)
  else (ofNat 0xfffd, rest)
 else if 0xdc00 ≤ n && n < 0xe000 then (ofNat 0xfffd, rest)
 else (ofNat n, rest)

/-- The characters of a text up to its closing quote. The fuel is the length of the input. -/
def chars? : Nat -> List Char -> String -> Option (String × List Char)
 | 0, _, _ => none
 | _ + 1, [], _ => none
 | _ + 1, '"' :: rest, acc => some (acc, rest)
 | fuel + 1, '\\' :: c :: rest, acc =>
  match c with
  | 'n' => chars? fuel rest (acc.push '\n')
  | 't' => chars? fuel rest (acc.push '\t')
  | 'r' => chars? fuel rest (acc.push '\r')
  | 'b' => chars? fuel rest (acc.push (ofNat 8))
  | 'f' => chars? fuel rest (acc.push (ofNat 12))
  | '"' => chars? fuel rest (acc.push '"')
  | '\\' => chars? fuel rest (acc.push '\\')
  | '/' => chars? fuel rest (acc.push '/')
  | 'u' => do
   let some (n, more) := unit? rest | none
   let (ch, more') := afterUnit n more
   chars? fuel more' (acc.push ch)
  | _ => none
 | fuel + 1, c :: rest, acc => if c.toNat < 32 then none else chars? fuel rest (acc.push c)

def digitRun : List Char -> Nat -> Nat -> Nat × Nat × List Char
 | [], acc, n => (acc, n, [])
 | c :: cs, acc, n =>
  if '0' ≤ c && c ≤ '9' then digitRun cs (acc * 10 + (c.toNat - 48)) (n + 1) else (acc, n, c :: cs)

def decimal (neg : Bool) (m : Nat) (e : Int) : Float :=
 let x :=
  if m = 0 then 0.0
  else if e < -5000 then 0.0
  else if e > 5000 then 1.0 / 0.0
  else if e < 0 then .ofScientific m true e.natAbs
  else .ofScientific m false e.natAbs
 if neg then -x else x

def exponent? : List Char -> Option (Int × List Char)
 | c :: cs =>
  if c = 'e' || c = 'E' then
   let (neg, cs') := match cs with
    | '-' :: t => (true, t)
    | '+' :: t | t => (false, t)
   let (v, n, rest) := digitRun cs' 0 0
   if n = 0 then none else some (if neg then -v else v, rest)
  else none
 | [] => none

def number? (neg : Bool) (cs : List Char) : Option (Json × List Char) :=
 let (whole, n, rest) := match cs with
  | '0' :: t => (0, 1, t)
  | t => digitRun t 0 0
 if n = 0 then none
 else
  let (frac, k, rest1) := if let '.' :: t := rest then
    let (f, k, r) := digitRun t 0 0
    if k = 0 then (0, 0, rest) else (f, k, r)
   else (0, 0, rest)
  match exponent? rest1 with
  | some (e, rest2) => some (.float (decimal neg (whole * Nat.pow 10 k + frac) (e - k)), rest2)
  | none =>
   if k = 0 then some (.int (if neg then -whole else whole), rest1)
   else some (.float (decimal neg (whole * Nat.pow 10 k + frac) (-k)), rest1)

mutual

def value? : Nat -> List Char -> Option (Json × List Char)
 | 0, _ => none
 | fuel + 1, cs =>
  match cs with
  | '"' :: rest => (chars? (rest.length + 1) rest "").map fun (s, r) => (.str s, r)
  | '[' :: rest =>
   match skipBlanks rest with
   | ']' :: r => some (.arr [], r)
   | r => items? fuel r []
  | '\x7b' :: rest =>
   match skipBlanks rest with
   | '\x7d' :: r => some (.obj [], r)
   | r => members fuel r []
  | 'n' :: 'u' :: 'l' :: 'l' :: r => some (.null, r)
  | 't' :: 'r' :: 'u' :: 'e' :: r => some (.bool true, r)
  | 'f' :: 'a' :: 'l' :: 's' :: 'e' :: r => some (.bool false, r)
  | 'N' :: 'a' :: 'N' :: r => some (.float (0.0 / 0.0), r)
  | 'I' :: 'n' :: 'f' :: 'i' :: 'n' :: 'i' :: 't' :: 'y' :: r => some (.float (1.0 / 0.0), r)
  | '-' :: 'I' :: 'n' :: 'f' :: 'i' :: 'n' :: 'i' :: 't' :: 'y' :: r => some (.float (-1.0 / 0.0), r)
  | '-' :: r => number? true r
  | r => number? false r

def items? : Nat -> List Char -> List Json -> Option (Json × List Char)
 | 0, _, _ => none
 | fuel + 1, cs, acc => do
  let some (v, rest) := value? fuel (skipBlanks cs) | none
  match skipBlanks rest with
  | ',' :: r => items? fuel r (v :: acc)
  | ']' :: r => some (.arr (v :: acc).reverse, r)
  | _ => none

def members : Nat -> List Char -> List (String × Json) -> Option (Json × List Char)
 | 0, _, _ => none
 | fuel + 1, cs, acc => do
  let '"' :: rest := skipBlanks cs | none
  let some (key, r) := chars? (rest.length + 1) rest "" | none
  let ':' :: r1 := skipBlanks r | none
  let some (v, r2) := value? fuel (skipBlanks r1) | none
  match skipBlanks r2 with
  | ',' :: r3 => members fuel r3 ((key, v) :: acc)
  | '\x7d' :: r3 => some (.obj ((key, v) :: acc).reverse, r3)
  | _ => none

end

def parse? (s : String) : Option Json :=
 let cs := s.toList
 if let some (v, rest) := value? (cs.length + 1) (skipBlanks cs) then if (skipBlanks rest).isEmpty then v else none
 else none

end DexLens.Json
