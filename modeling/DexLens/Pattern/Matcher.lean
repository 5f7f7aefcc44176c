import DexLens.Pattern.Reader

/-! # Matching

A pattern is tried from left to right, and the first choice that lets the rest match is taken.
-/

namespace DexLens.Pattern

open Node

variable (n : Node) (s : String)

/-- What is behind the matcher, nearest first, what is ahead, and what the groups have caught. -/
structure Spot where
 (behind ahead : List Char)
 caught : List (Nat × List Char)

namespace Spot

def step (s : Spot) : Option (Char × Spot) := do
 let c :: cs := s.ahead | none
 (c, { s with behind := c :: s.behind, ahead := cs })

def take? : List Char -> Spot -> Option Spot
 | [], s => some s
 | c :: cs, s => do
  let some (d, s) := s.step | none
  if c = d then take? cs s else none

def back? : Nat -> Spot -> Option Spot
 | 0, s => s
 | n + 1, s => do
  let c :: cs := s.behind | none
  back? n { s with behind := cs, ahead := c :: s.ahead }

def atBoundary (s : Spot) : Bool :=
 let before := (s.behind.head?.map isWord).getD false
 let after := (s.ahead.head?.map isWord).getD false
 before != after

end Spot

def fold (c : Char) : Char :=
 let n := c.toNat
 if 0xc0 ≤ n && n ≤ 0xde && n ≠ 0xd7 then .ofNat (n + 32) else c.toLower

def Member.holds (ic : Bool) (c : Char) : Member -> Bool
 | .single d => if ic then fold c = fold d else c = d
 | .range lo hi => lo ≤ c && c ≤ hi || ic && (lo ≤ fold c && fold c ≤ hi || lo ≤ c.toUpper && c.toUpper ≤ hi)
 | .named k neg => k.holds c != neg

abbrev Next := Spot -> Option Spot

def Node.run : Nat -> Node -> Spot -> Next -> Option Spot
 | 0, _, _, _ => none
 | fuel + 1, n, s, k =>
  match n with
  | .empty => k s
  | .char c ic => do
   let some (d, s) := s.step | none
   if (if ic then fold c = fold d else c = d) then k s else none
  | .any dotAll => do
   let some (d, s) := s.step | none
   if dotAll || d ≠ '\n' then k s else none
  | .set neg ms ic => do
   let some (d, s) := s.step | none
   if ms.any (Member.holds ic d) != neg then k s else none
  | .textStart => if s.behind.isEmpty then k s else none
  | .textEnd => if s.ahead.isEmpty then k s else none
  | .tailEnd => if s.ahead.isEmpty || s.ahead = ['\n'] then k s else none
  | .lineStart => if s.behind.isEmpty || s.behind.head? = some '\n' then k s else none
  | .lineEnd => if s.ahead.isEmpty || s.ahead.head? = some '\n' then k s else none
  | .boundary neg => if s.atBoundary != neg then k s else none
  | .seq a b => run fuel a s (run fuel b · k)
  | .alt a b => do
   let some r := run fuel a s k | run fuel b s k
   some r
  | .group none b => run fuel b s k
  | .group (some i) b =>
   run fuel b s fun e =>
    let text := (e.behind.take (e.behind.length - s.behind.length)).reverse
    k { e with caught := (i, text) :: e.caught }
  | .backref i => do
   let some text := s.caught.lookup i | none
   (s.take? text).bind k
  | .look true neg b =>
   if let some e := run fuel b s some then if neg then none else k { s with caught := e.caught }
   else if neg then k s else none
  | .look false neg b =>
   let found := if let some w := b.width? then (s.back? w).bind (run fuel b · some) else none
   if let some e := found then if neg then none else k { s with caught := e.caught } else if neg then k s else none
  | .atomic b => do
   let some e := run fuel b s some | none
   k e
  | .conditional i yes no => if s.caught.any (·.1 == i) then run fuel yes s k else run fuel no s k
  | .repeated (least + 1) most how b => run fuel b s (run fuel (.repeated least (most.map (· - 1)) how b) · k)
  | .repeated 0 (some 0) _ _ => k s
  | .repeated 0 most how b =>
   let more k :=
    run fuel b s fun e =>
     if e.behind.length = s.behind.length then none
     else run fuel (.repeated 0 (most.map (· - 1)) how b) e k
   match how with
   | .greedy => do
    let some r := more k | k s
    some r
   | .lazy => do
    let some r := k s | more k
    some r
   | .possessive => do
    let some e := more some | k s
    k e

def Node.parts : Node -> Nat
 | .seq a b | .alt a b | .conditional _ a b => a.parts + b.parts + 1
 | .group _ b | .look _ _ b | .atomic b => b.parts + 1
 | .repeated n m _ b => (n + m.getD 0 + 2) * (b.parts + 1)
 | _ => 1

def fuelFor (length : Nat) : Nat := (length + 2) * (n.parts + 2) + 64

def matchesStart : Bool :=
 let cs := s.toList
 (n.run (fuelFor n cs.length) ⟨[], cs, []⟩ some).isSome

def searchFrom (n : Node) (fuel : Nat) : List Char -> List Char -> Bool
 | behind, [] => (n.run fuel ⟨behind, [], []⟩ some).isSome
 | behind, c :: cs => (n.run fuel ⟨behind, c :: cs, []⟩ some).isSome || searchFrom n fuel (c :: behind) cs

def matchesWithin : Bool :=
 let cs := s.toList
 searchFrom n (fuelFor n cs.length) [] cs

end DexLens.Pattern
