import DexLens.Json.Parser

/-! # Reading floating-point numbers -/

namespace DexLens.Decimal

/-- A run of digits with single underscores between them: its value, their number, and what follows. -/
def digitsThen : List Char -> Nat -> Nat -> Nat × Nat × List Char
 | c :: d :: cs, acc, n =>
  if c.isDigit then digitsThen (d :: cs) (acc * 10 + (c.toNat - 48)) (n + 1)
  else if c = '_' && 0 < n && d.isDigit then digitsThen (d :: cs) acc n
  else (acc, n, c :: d :: cs)
 | [c], acc, n => if c.isDigit then (acc * 10 + (c.toNat - 48), n + 1, []) else (acc, n, [c])
 | [], acc, n => (acc, n, [])

def exponentEnd? : List Char -> Option Int
 | [] => some 0
 | c :: cs =>
  if c = 'e' || c = 'E' then
   let (neg, ds) := match cs with
    | '-' :: t => (true, t)
    | '+' :: t | t => (false, t)
   if let (v, n, []) := digitsThen ds 0 0 then if n = 0 then none else some (if neg then -(v : Int) else v) else none
  else none

def unsigned? (neg : Bool) (cs : List Char) : Option Float :=
 let word := String.ofList (cs.map .toLower)
 if word = "inf" || word = "infinity" then some (if neg then -(1.0 / 0.0) else 1.0 / 0.0)
 else if word = "nan" then some (0.0 / 0.0)
 else
  let (whole, n, rest) := digitsThen cs 0 0
  let (part, k, rest) := if let '.' :: t := rest then
    if let '_' :: _ := t then (0, 0, rest) else digitsThen t 0 0
   else (0, 0, rest)
  if n + k = 0 then none
  else (exponentEnd? rest).map fun e => Json.decimal neg (whole * .pow 10 k + part) (e - k)

/-- Blanks around it, a sign, digits, a point, an exponent, or one of the words for numbers without digits. -/
def parse? (s : String) : Option Float :=
 match Text.stripList s.toList with
 | '-' :: cs => unsigned? true cs
 | '+' :: cs | cs => unsigned? false cs

end DexLens.Decimal
