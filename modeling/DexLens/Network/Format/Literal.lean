import DexLens.Network.Generate.Degrees

/-! # Values written as text

Numbers, texts, tuples, lists, sets and tables can be written down and read back.
-/

namespace DexLens.Network.Literal

open Char Text

variable (cs : List Char)

def skip : List Char := cs.dropWhile fun c => c = ' ' || c = '\t' || c = '\n' || c = '\r' || c = '\x0c'

def isNameChar (c : Char) : Bool := c.isAlphanum || c = '_' || c.toNat ≥ 128

def digitsOf (isDigit : Char -> Bool) : List Char -> List Char × List Char
 | '_' :: c :: cs =>
  if isDigit c then
   let (ds, rest) := digitsOf isDigit cs
   (c :: ds, rest)
  else ([], '_' :: c :: cs)
 | c :: cs =>
  if isDigit c then
   let (ds, rest) := digitsOf isDigit cs
   (c :: ds, rest)
  else ([], c :: cs)
 | [] => ([], [])

def run (isDigit : Char -> Bool) (cs : List Char) : List Char × List Char :=
 if let '_' :: _ := cs then ([], cs) else digitsOf isDigit cs

def based (base : Nat) (cs : List Char) : Option (Value × List Char) :=
 let cs := if let '_' :: rest := cs then rest else cs
 let (ds, rest) := run (fun c => (digit? c).any (· < base)) cs
 if let some n := digits? base ds then if rest.head?.any isNameChar then none else some (n, rest) else none

def sign : List Char × List Char :=
 match cs with
 | '+' :: rest => (['+'], rest)
 | '-' :: rest => (['-'], rest)
 | rest => ([], rest)

def exponent (digits : List Char -> List Char × List Char) (cs : List Char) : List Char × List Char :=
 match cs with
 | 'e' :: rest | 'E' :: rest =>
  let (sign, rest) := sign rest
  let (ds, rest) := digits rest
  if ds.isEmpty then ([], cs) else ('e' :: sign ++ ds, rest)
 | _ => ([], cs)

def number : Option (Value × List Char) :=
 match cs with
 | '0' :: 'x' :: r | '0' :: 'X' :: r => based 16 r
 | '0' :: 'o' :: r | '0' :: 'O' :: r => based 8 r
 | '0' :: 'b' :: r | '0' :: 'B' :: r => based 2 r
 | _ =>
  let (whole, r1) := run isDigit cs
  let (point, part, r2) := match r1 with
   | '.' :: r =>
    let (ds, r') := run isDigit r
    (true, ds, r')
   | r => (false, [], r)
  if whole.isEmpty && part.isEmpty then none
  else
   let (ex, r3) := exponent (run isDigit) r2
   let isFloat := point || !ex.isEmpty
   let text := String.ofList (whole ++ (if point then '.' :: part else []) ++ ex)
   let imaginary := r3.head? == 'j' || r3.head? == 'J'
   let r4 := if imaginary then r3.drop 1 else r3
   if r4.head?.any isNameChar then none
   else if isFloat || imaginary then (Decimal.parse? text).map fun x => (if imaginary then .complex 0 x else x, r4)
   else if whole.head? == '0' && whole.any (· != '0') then none
   else (digits? 10 whole).map (.nat ·, r4)

def hexDigits (n : Nat) (cs : List Char) : Option (Nat × List Char) :=
 let ds := cs.take n
 if ds.length = n then (digits? 16 ds).map (·, cs.drop n) else none

def escape (binary : Bool) (cs : List Char) : Option (List Char × List Char) :=
 let octal c := '0' ≤ c && c ≤ '7'
 match cs with
 | [] => none
 | c :: rest =>
  match c, ("\\'\"abfnrtv".toList.zip "\\'\"\x07\x08\x0c\n\r\t\x0b".toList).lookup c with
  | '\n', _ => some ([], rest)
  | _, some e => some ([e], rest)
  | 'x', _ => (hexDigits 2 rest).map fun (k, r) => ([ofNat k], r)
  | _, _ =>
   if octal c then
    let ds := cs.take 3 |>.takeWhile octal
    (digits? 8 ds).map fun k => ([ofNat (if binary then k % 256 else k)], cs.drop ds.length)
   else if c = 'u' && !binary then (hexDigits 4 rest).map fun (k, r) => ([ofNat k], r)
   else if c = 'U' && !binary then
    if let some (k, r) := hexDigits 8 rest then if k < 0x110000 then some ([ofNat k], r) else none else none
   else if c = 'N' && !binary then none
   else some (['\\', c], rest)

def body (close : List Char) (raw binary : Bool) : Nat -> List Char -> Option (List Char × List Char)
 | 0, _ => none
 | fuel + 1, cs =>
  if let some rest := dropLeading? close cs then some ([], rest)
  else
   match cs with
   | [] => none
   | '\\' :: rest =>
    if raw then
     if let c :: more := rest then (body close raw binary fuel more).map fun (s, r) => ('\\' :: c :: s, r) else none
    else
     if let some (s, more) := escape binary rest then (body close raw binary fuel more).map fun (t, r) => (s ++ t, r)
     else none
   | c :: rest =>
    if c = '\n' && close.length = 1 then none
    else if binary && c.toNat ≥ 128 then none
    else (body close raw binary fuel rest).map fun (s, r) => (c :: s, r)

def quotedText : Option (Value × List Char) :=
 let marks := (cs.takeWhile isAlpha).map toLower
 let rest := cs.dropWhile isAlpha
 let binary := marks.contains 'b'
 let raw := marks.contains 'r'
 let known := [[], ['r'], ['u'], ['b'], ['b', 'r'], ['r', 'b']].contains marks
 if let q :: more := rest then
  if known && (q = '\'' || q = '"') then
   let close := if (dropLeading? [q, q] more).isSome then [q, q, q] else [q]
   let start := more.drop (close.length - 1)
   (body close raw binary (start.length + 1) start).map fun (s, r) =>
    (if binary then .bytes (s.map (.ofNat ·.toNat)) else .text (.ofList s), r)
  else none
 else none

def joined : Nat -> List Char -> Option (Value × List Char)
 | 0, _ => none
 | fuel + 1, cs => do
  let some (v, rest) := quotedText cs | none
  let some _ := quotedText (skip rest) | some (v, rest)
  match v, joined fuel (skip rest) with
  | .text a, some (.text b, r) => some (.text (a ++ b), r)
  | .bytes a, some (.bytes b, r) => some (.bytes (a ++ b), r)
  | _, _ => none

def negated : Value -> Option Value
 | .int i => some (.int (-i))
 | .float x => some (.float (-x))
 | .complex a b => some (.complex (-a) (-b))
 | _ => none

def signed : Option (Value × List Char) :=
 match cs with
 | '-' :: r => do
  let (v, r) <- number (skip r)
  return (<- negated v, r)
 | '+' :: r => number (skip r)
 | _ => number cs

def numeric : Option (Value × List Char) := do
 let (v, r) <- signed cs
 let add sign (r' : List Char) : Option (Value × List Char) := do
  let (some x, (.complex _ y, r'')) := (v.num?, <- number (skip r')) | none
  return (.complex x.toFloat (sign * y), r'')
 match skip r with
 | '+' :: r' => add 1 r'
 | '-' :: r' => add (-1) r'
 | _ => return (v, r)

mutual

def value : Nat -> List Char -> Option (Value × List Char)
 | 0, _ => none
 | fuel + 1, cs =>
  match cs with
  | [] => none
  | '(' :: r =>
   match skip r with
   | ')' :: r' => some (.tuple [], r')
   | r' => do
    let (v, r1) <- value fuel r'
    match skip r1 with
    | ')' :: r2 => return (v, r2)
    | ',' :: r2 =>
     let (vs, r3) <- values fuel ')' (skip r2)
     return (.tuple (v :: vs), r3)
    | _ => none
  | '[' :: r => do
   let (vs, r') <- values fuel ']' (skip r)
   return (.list vs, r')
  | '\x7b' :: r =>
   match skip r with
   | '\x7d' :: r' => some (.dict [], r')
   | r' => do
    let (k, r1) <- value fuel r'
    match skip r1 with
    | ':' :: r2 =>
     let (v, r3) <- value fuel (skip r2)
     if !k.hashable then none
     match skip r3 with
     | ',' :: r4 =>
      let (ps, r5) <- entries fuel (skip r4)
      return (.dict (Table.ofList ((k, v) :: ps)), r5)
     | '\x7d' :: r4 => return (.dict [(k, v)], r4)
     | _ => none
    | ',' :: r2 =>
     let (vs, r3) <- values fuel '\x7d' (skip r2)
     if (k :: vs).all Value.hashable then return (.set (uniq (k :: vs)), r3) else none
    | '\x7d' :: r2 => if k.hashable then return (.set [k], r2) else none
    | _ => none
  | c :: _ =>
   if c.isDigit || c = '.' || c = '-' || c = '+' then numeric cs
   else
    let word := cs.takeWhile isNameChar
    let rest := cs.dropWhile isNameChar
    if word = "True".toList then some (.bool true, rest)
    else if word = "False".toList then some (.bool false, rest)
    else if word = "None".toList then some (.null, rest)
    else if word = "set".toList then
     if let '(' :: r := skip rest then do
      let ')' :: r' := skip r | none
      some (.set [], r')
     else none
    else joined (cs.length + 1) cs

def values : Nat -> Char -> List Char -> Option (Vals × List Char)
 | 0, _, _ => none
 | fuel + 1, close, cs => do
  let c :: r := cs | none
  if c = close then some ([], r)
  else do
   let (v, r1) <- value fuel cs
   match skip r1 with
   | ',' :: r2 =>
    let (vs, r3) <- values fuel close (skip r2)
    return (v :: vs, r3)
   | c' :: r2 => if c' = close then return ([v], r2) else none
   | [] => none

def entries : Nat -> List Char -> Option (Pairs × List Char)
 | 0, _ => none
 | fuel + 1, cs =>
  if let '\x7d' :: r := cs then some ([], r)
  else do
   let (k, r1) <- value fuel cs
   let ':' :: r2 := skip r1 | none
   let (v, r3) <- value fuel (skip r2)
   if !k.hashable then none
   match skip r3 with
   | ',' :: r4 =>
    let (ps, r5) <- entries fuel (skip r4)
    return ((k, v) :: ps, r5)
   | '\x7d' :: r4 => return ([(k, v)], r4)
   | _ => none

end

def parse? (s : String) : Option Value := do
 let cs := skip s.toList
 let fuel := 2 * cs.length + 2
 let (v, r) <- value fuel cs
 match skip r with
 | [] => return v
 | ',' :: r' =>
  let (vs, r'') <- values fuel '\x00' (skip (r' ++ ['\x00']))
  if r''.isEmpty then return .tuple (v :: vs) else none
 | _ => none

end DexLens.Network.Literal
