import DexLens.Fault
import DexLens.Text.Basic

/-! # Patterns

The syntax trees of regular expressions, and the classes of characters they mention.
-/

namespace DexLens.Pattern

open Char Text

variable (c : Char) (s : String)

inductive Class where
 | digit | blank | word
 deriving DecidableEq

/-- The letters, digits and number signs among the first 256 characters, and the underscore. -/
def isWord : Bool :=
 let n := c.toNat
 c.isAlphanum || c == '_' || n ≥ 0xc0 && n ≠ 0xd7 && n ≠ 0xf7 ||
  [0xaa, 0xb2, 0xb3, 0xb5, 0xb9, 0xba, 0xbc, 0xbd, 0xbe].contains n

def Class.holds : Class -> Char -> Bool
 | .digit, c => c.isDigit
 | .blank, c => isBlank c
 | .word, c => isWord c

inductive Member where
 | single (c : Char)
 | range (lo hi : Char)
 | named (k : Class) (negated : Bool)

/-- How letters are compared, and what a point and the anchors mean. -/
structure Flags where
 ignoreCase : Bool := false
 multiline : Bool := false
 dotAll : Bool := false
 verbose : Bool := false

inductive Eagerness where
 | greedy | lazy | possessive
 deriving DecidableEq

inductive Node where
 | empty
 | char (c : Char) (ignoreCase : Bool)
 | any (dotAll : Bool)
 | set (negated : Bool) (members : List Member) (ignoreCase : Bool)
 | lineStart | lineEnd | textStart | textEnd | tailEnd
 | boundary (negated : Bool)
 | seq (a b : Node)
 | alt (a b : Node)
 | group (index : Option Nat) (body : Node)
 | backref (index : Nat)
 | look (ahead negated : Bool) (body : Node)
 | atomic (body : Node)
 | repeated (least : Nat) (most : Option Nat) (how : Eagerness) (body : Node)
 | conditional (index : Nat) (yes no : Node)

def Node.width? : Node -> Option Nat
 | .empty | .lineStart | .lineEnd | .textStart | .textEnd | .tailEnd | .boundary _ | .look _ _ _ => some 0
 | .char _ _ | .any _ | .set _ _ _ => some 1
 | .seq a b => do return (<- a.width?) + (<- b.width?)
 | .alt a b => do
  let x <- a.width?
  let y <- b.width?
  if x = y then some x else none
 | .group _ b | .atomic b => b.width?
 | .backref _ => none
 | .repeated least (some most) _ b => do if least = most then return least * (<- b.width?) else none
 | .repeated _ none _ _ => none
 | .conditional _ a b => do
  let x <- a.width?
  if x = (<- b.width?) then x else none

/-! # Reading patterns

Groups are numbered by their opening parenthesis.
-/

/-- The text that is left, the number of groups so far, their names, and the groups that are open. -/
structure Cursor where
 rest : List Char
 groups : Nat
 names : List (String × Nat)
 opened : List Nat
 flags : Flags

abbrev Read := StateT Cursor Res

namespace Read

def bad {α : Type} : Read α := throw .badPattern

def peek : Read (Option Char) := return (<- get).rest.head?

def skip (n : Nat) : Read Unit := modify fun c => { c with rest := c.rest.drop n }

def accept : Read Bool := do
 let some rest := dropLeading? s.toList (<- get).rest | return false
 modify fun c => { c with rest }; return true

def upTo (c : Char) : Read String := do
 let cs := (<- get).rest
 let taken := cs.takeWhile (· ≠ c)
 let _ :: rest := cs.drop taken.length | bad
 modify fun s => { s with rest }; return .ofList taken

def hexDigits (n : Nat) : Read Char := do
 let ds := (<- get).rest.take n
 let some v := digits? 16 ds | bad
 if ds.length = n then
  skip n
  return ofNat v
 else bad

end Read

open Read

def controlEscape? : Char -> Option Char
 | 'a' => some '\x07'
 | 'b' => some '\x08'
 | 'f' => some '\x0c'
 | 'n' => some '\n'
 | 'r' => some '\r'
 | 't' => some '\t'
 | 'v' => some '\x0b'
 | '\\' => some '\\'
 | _ => none

def classEscape? : Char -> Option (Class × Bool)
 | 'd' => some (.digit, false)
 | 'D' => some (.digit, true)
 | 's' => some (.blank, false)
 | 'S' => some (.blank, true)
 | 'w' => some (.word, false)
 | 'W' => some (.word, true)
 | _ => none

def isOctal : Bool := '0' ≤ c && c ≤ '7'

def octal (ds : List Char) : Nat := ds.foldl (fun n d => n * 8 + (d.toNat - 48)) 0

def setEscape : Read Member := do
 let some c <- peek | bad
 skip 1
 if let some (k, neg) := classEscape? c then return .named k neg
 else
  if let some x := controlEscape? c then return .single x
  else
   if c = 'x' then return .single (<- hexDigits 2)
   if c = 'u' then return .single (<- hexDigits 4)
   if c = 'U' then return .single (<- hexDigits 8)
   else if isOctal c then
    let more := ((<- get).rest.take 2).takeWhile isOctal
    skip more.length
    let v := octal (c :: more)
    if v > 0o377 then bad else return .single (ofNat v)
   else if c.isDigit then bad
   else if c.isAlpha then bad
   else return .single c

def setItem : Read Member := do
 match <- peek with
 | none => bad
 | some '\\' => skip 1; setEscape
 | some c => skip 1; return .single c

def setMembers : Nat -> Bool -> Read (List Member)
 | 0, _ => bad
 | fuel + 1, first => do
  if !first && (<- peek) = some ']' then
   skip 1
   return []
  let a <- setItem
  match (<- get).rest with
  | '-' :: ']' :: _ =>
   skip 2
   return [a, .single '-']
  | '-' :: [] => bad
  | '-' :: _ =>
   skip 1
   let b <- setItem
   let (.single lo, .single hi) := (a, b) | bad
   if hi < lo then bad
   return .range lo hi :: (<- setMembers fuel false)
  | _ => return a :: (<- setMembers fuel false)

def escape : Read Node := do
 let fl := (<- get).flags
 let some c <- peek | bad
 skip 1
 if let some (k, neg) := classEscape? c then return .set false [.named k neg] false
 else
  if c = 'A' then return .textStart
  if c = 'Z' then return .textEnd
  if c = 'b' then return .boundary false
  if c = 'B' then return .boundary true
  if c = 'x' then return .char (<- hexDigits 2) fl.ignoreCase
  if c = 'u' then return .char (<- hexDigits 4) fl.ignoreCase
  if c = 'U' then return .char (<- hexDigits 8) fl.ignoreCase
  else if c = '0' then
   let more := ((<- get).rest.take 2).takeWhile isOctal
   skip more.length
   return .char (ofNat (octal (c :: more))) fl.ignoreCase
  else if c.isDigit then
   let d :: e :: _ := (<- get).rest | reference c
   if isOctal c && isOctal d && isOctal e then
    skip 2
    let v := octal [c, d, e]
    if v > 0o377 then bad else return .char (ofNat v) fl.ignoreCase
   else reference c
  else
   if let some x := controlEscape? c then return .char x fl.ignoreCase
   else if c.isAlpha then bad else return .char c fl.ignoreCase
where
 reference c : Read Node := do
  let more := ((<- get).rest.take 1).takeWhile isDigit
  skip more.length
  let n := (c :: more).foldl (fun n d => n * 10 + (d.toNat - 48)) 0
  let s <- get
  if n ≤ s.groups && !s.opened.contains n then return .backref n else bad

/-- The bounds of a repetition in braces, after the opening one; nothing if the brace is text. -/
def bounds? (cs : List Char) : Option (Res (Nat × Option Nat × List Char)) :=
 let lo := cs.takeWhile isDigit
 let rest := cs.drop lo.length
 let num (ds : List Char) := ds.foldl (fun n d => n * 10 + (d.toNat - 48)) 0
 match rest with
 | '\x7d' :: rest => if lo.isEmpty then none else some (.ok (num lo, some (num lo), rest))
 | ',' :: rest =>
  let hi := rest.takeWhile isDigit
  if let '\x7d' :: rest := rest.drop hi.length then
   if hi.isEmpty then some (.ok (num lo, none, rest))
   else if num hi < num lo then some (.error .badPattern)
   else some (.ok (num lo, some (num hi), rest))
  else none
 | _ => none

def flagged? (on : Bool) (f : Flags) : Option Flags :=
 match c with
 | 'i' => some { f with ignoreCase := on }
 | 'm' => some { f with multiline := on }
 | 's' => some { f with dotAll := on }
 | 'x' => some { f with verbose := on }
 | 'a' | 'u' => if on then some f else none
 | _ => none

def isName : Bool :=
 if let c :: cs := s.toList then (c.isAlpha || c = '_') && cs.all fun d => d.isAlphanum || d = '_' else false

def skipNoise : Nat -> Read Unit
 | 0 => bad
 | fuel + 1 => do
  let verbose := (<- get).flags.verbose
  if <- accept "(?#" then
   let _ <- upTo ')'
   skipNoise fuel
  else
   let some c <- peek | return
   if verbose && isBlank c then
    skip 1
    skipNoise fuel
   else if verbose && c = '#' then
    let line := (<- get).rest.takeWhile (· ≠ '\n')
    skip line.length
    skipNoise fuel
   else return

def atRepetition : Read Bool := do
 match (<- get).rest with
 | '*' :: _ | '+' :: _ | '?' :: _ => return true
 | '\x7b' :: more => return (bounds? more).isSome
 | _ => return false

mutual

def alternatives : Nat -> Bool -> Read Node
 | 0, _ => bad
 | fuel + 1, start => do
  let a <- sequence fuel start .empty
  if <- accept "|" then return .alt a (<- alternatives fuel false) else return a

def sequence : Nat -> Bool -> Node -> Read Node
 | 0, _, _ => bad
 | fuel + 1, start, acc => do
  skipNoise fuel
  match <- peek with
  | none | some '|' | some ')' => return acc
  | some _ => do
   let some (a, repeatable) <- item fuel start | sequence fuel start acc
   let a <- quantified fuel a repeatable
   sequence fuel false (.seq acc a)

def quantified : Nat -> Node -> Bool -> Read Node
 | 0, _, _ => bad
 | fuel + 1, a, repeatable => do
  skipNoise fuel
  let found : Option (Nat × Option Nat × List Char) <-
   match (<- get).rest with
   | '*' :: rest => pure (some (0, none, rest))
   | '+' :: rest => pure (some (1, none, rest))
   | '?' :: rest => pure (some (0, some 1, rest))
   | '\x7b' :: rest =>
    match bounds? rest with
    | none => pure none
    | some (.error e) => throw e
    | some (.ok r) => pure (some r)
   | _ => pure none
  let some (lo, hi, rest) := found | return a
  if !repeatable then bad
  let (how, rest) := match rest with
   | '?' :: rest => (Eagerness.lazy, rest)
   | '+' :: rest => (Eagerness.possessive, rest)
   | rest => (Eagerness.greedy, rest)
  modify fun s => { s with rest }
  skipNoise fuel
  if <- atRepetition then bad
  return .repeated lo hi how a

def item : Nat -> Bool -> Read (Option (Node × Bool))
 | 0, _ => bad
 | fuel + 1, start => do
  let fl := (<- get).flags
  match <- peek with
  | none => bad
  | some '.' => skip 1; return some (.any fl.dotAll, true)
  | some '^' => skip 1; return some (if fl.multiline then .lineStart else .textStart, false)
  | some '$' => skip 1; return some (if fl.multiline then .lineEnd else .tailEnd, false)
  | some '*' | some '+' | some '?' => bad
  | some '\x7b' => if <- atRepetition then bad else do skip 1; return some (.char '\x7b' fl.ignoreCase, true)
  | some '\\' =>
   skip 1
   let n <- escape
   return some (n, match n with
    | .textStart | .textEnd | .boundary _ => false
    | _ => true)
  | some '[' =>
   skip 1
   let neg <- accept "^"
   let ms <- setMembers fuel true
   return some (.set neg ms fl.ignoreCase, true)
  | some '(' => skip 1; paren fuel start
  | some c => skip 1; return some (.char c fl.ignoreCase, true)

def paren : Nat -> Bool -> Read (Option (Node × Bool))
 | 0, _ => bad
 | fuel + 1, start => do
  if <- accept "?:" then
   return some (.group none (<- body fuel), true)
  else if <- accept "?=" then return some (.look true false (<- body fuel), true)
  else if <- accept "?!" then return some (.look true true (<- body fuel), true)
  else if <- accept "?<=" then behind fuel false
  else if <- accept "?<!" then behind fuel true
  else if <- accept "?>" then return some (.atomic (<- body fuel), true)
  else if <- accept "?P<" then
   let name <- upTo '>'
   if !isName name || (<- get).names.any (·.1 == name) then bad
   let n := (<- get).groups + 1
   modify fun s => { s with groups := n, names := (name, n) :: s.names, opened := n :: s.opened }
   let b <- body fuel
   modify fun s => { s with opened := s.opened.erase n }
   return some (.group (some n) b, true)
  else if <- accept "?P=" then
   let name <- upTo ')'
   let some (_, n) := (<- get).names.find? (·.1 == name) | bad
   if (<- get).opened.contains n then bad else return some (.backref n, true)
  else if <- accept "?(" then
   let name <- upTo ')'
   let s <- get
   let index : Option Nat := if let some (_, n) := s.names.find? (·.1 == name) then some n else digits? 10 name.toList
   let some n := index | bad
   if n = 0 || n > s.groups then bad
   let yes <- sequence fuel false .empty
   let no <- if <- accept "|" then sequence fuel false .empty else pure Node.empty
   if <- accept ")" then return some (.conditional n yes no, true) else bad
  else if <- accept "?" then flagGroup fuel start
  else
   let n := (<- get).groups + 1
   modify fun s => { s with groups := n, opened := n :: s.opened }
   let b <- body fuel
   modify fun s => { s with opened := s.opened.erase n }
   return some (.group (some n) b, true)

def behind : Nat -> Bool -> Read (Option (Node × Bool))
 | 0, _ => bad
 | fuel + 1, negated => do
  let b <- body fuel
  if b.width?.isNone then bad
  return some (.look false negated b, true)

def flagGroup : Nat -> Bool -> Read (Option (Node × Bool))
 | 0, _ => bad
 | fuel + 1, start => do
  let outer := (<- get).flags
  let isFlag (c : Char) := ['i', 'm', 's', 'x', 'a', 'u'].contains c
  let on := (<- get).rest.takeWhile isFlag
  skip on.length
  let some f := on.foldl (fun f c => f.bind (flagged? c true)) (some outer) | bad
  if <- accept ")" then
   if on.isEmpty || !start then bad
   modify fun s => { s with flags := f }
   return none
  else
   let f <- if <- accept "-" then do
    let off := (<- get).rest.takeWhile isFlag
    skip off.length
    if off.isEmpty then bad
    if let some f := off.foldl (fun f c => f.bind (flagged? c false)) (some f) then pure f else bad
    else if on.isEmpty then bad else pure f
   if <- accept ":" then
    modify fun s => { s with flags := f }
    let b <- body fuel
    modify fun s => { s with flags := outer }
    return some (.group none b, true)
   else bad

def body : Nat -> Read Node
 | 0 => bad
 | fuel + 1 => do
  let a <- alternatives fuel false
  if <- accept ")" then return a else bad

end

def read : Res Node := do
 let cs := s.toList
 let (n, c) <- (alternatives (8 * cs.length + 16) true).run ⟨cs, 0, [], [], {}⟩
 if c.rest.isEmpty then return n else throw .badPattern

end DexLens.Pattern
