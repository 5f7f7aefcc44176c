import DexLens.Fault
import DexLens.Markup.Basic

/-! # Reading markup

The reader keeps the elements that are open, and stops where the text is malformed.
-/

namespace DexLens.Markup

variable (cs : List Char) (s : State) (c : Char) (scope : List (String × String)) (label : String) (cs : List Char)

structure Open where
 label : String
 element : Element
 /-- The name spaces by the words that stand for them here. -/
 scope : List (String × String)

structure State where
 rest : List Char
 pending : List Char := []
 opened : List Open := []
 root : Option Element := none
 typed : Bool := false

def isBlank : Bool := c = ' ' || c = '\t' || c = '\n' || c = '\r'

def skipBlanks : List Char := cs.dropWhile isBlank

def isAllowed (n : Nat) : Bool :=
 n = 9 || n = 10 || n = 13 || 32 ≤ n && n < 0xd800 || 0xe000 ≤ n && n < 0xfffe || 0x10000 ≤ n && n < 0x110000

def isNameStart : Bool := c.isAlpha || c = '_' || c = ':' || 0x80 ≤ c.toNat

def isNameChar : Bool := isNameStart c || c.isDigit || c = '-' || c = '.'

def name? : Option (String × List Char) := do
 let c :: _ := cs | none
 if isNameStart c then
  let (n, rest) := cs.span isNameChar
  some (.ofList n, rest)
 else none

def number? (base : Nat) (digits : List Char) : Option Nat :=
 if digits.isEmpty then none
 else digits.foldlM (fun acc c => (Text.digit? c).bind fun d => if d < base then (acc * base + d) else none) 0

def reference? : Option (Char × List Char) := do
 let (body, rest) := cs.span (· != ';')
 let _ :: rest := rest | none
 match body with
 | '#' :: 'x' :: digits => return (<- char (<- number? 16 digits), rest)
 | '#' :: digits => return (<- char (<- number? 10 digits), rest)
 | _ =>
  let c <- [("lt", '<'), ("gt", '>'), ("amp", '&'), ("quot", '"'), ("apos", '\'')].lookup (String.ofList body)
  return (c, rest)
where
 char n : Option Char := if isAllowed n then some (.ofNat n) else none

/-- The value of an attribute up to its closing quote. The fuel is the length of the text. -/
def value? (quote : Char) : Nat -> List Char -> List Char -> Option (String × List Char)
 | 0, _, _ => none
 | _ + 1, _, [] => none
 | n + 1, acc, c :: cs =>
  if c = quote then some (.ofList acc.reverse, cs)
  else if c = '<' then none
  else if c = '&' then
   if let some (c, rest) := reference? cs then value? quote n (c :: acc) rest else none
  else if isBlank c then value? quote n (' ' :: acc) cs
  else if isAllowed c.toNat then value? quote n (c :: acc) cs
  else none

/-- The attributes of an element up to the end of its tag, and whether the element ends there. -/
def attributes? : Nat -> List (String × String) -> List Char -> Option (List (String × String) × Bool × List Char)
 | 0, _, _ => none
 | n + 1, acc, cs =>
  match skipBlanks cs with
  | '>' :: rest => some (acc.reverse, false, rest)
  | '/' :: '>' :: rest => some (acc.reverse, true, rest)
  | next =>
   if next.length = cs.length then none
   else do
    let (k, rest) <- name? next
    let '=' :: rest := skipBlanks rest | none
    let q :: rest := skipBlanks rest | none
    if q = '"' || q = '\'' then
     let (v, rest) <- value? q (rest.length + 1) [] rest
     if acc.any (·.1 == k) then none else attributes? n ((k, v) :: acc) rest
    else none

def parts : Option (Option String × String) :=
 match Text.split ':' label with
 | [b] => some (none, b)
 | [p, b] => if p = "" || b = "" then none else some (some p, b)
 | _ => none

def xmlSpace : String := "http://www.w3.org/XML/1998/namespace"

def declarationSpace : String := "http://www.w3.org/2000/xmlns/"

/-- May a word stand for a name space? The empty word stands for the space of plain names. -/
def mayStandFor (word space : String) : Bool :=
 if word = "xml" then space = xmlSpace
 else word != "xmlns" && space != xmlSpace && space != declarationSpace && (word = "" || space != "")

def scopeInside (attrs : List (String × String)) : Option (List (String × String)) :=
 attrs.foldlM (fun scope (k, v) =>
  if k = "xmlns" then if mayStandFor "" v then some (("", v) :: scope) else none
  else
   match parts k with
   | some (some "xmlns", p) => if mayStandFor p v then some ((p, v) :: scope) else none
   | some _ => some scope
   | none => none) scope

def resolve (byDefault : Bool) : Option Name := do
 match <- parts label with
 | (none, b) => return { space := if byDefault then (scope.lookup "").getD "" else "", base := b }
 | (some p, b) => return { space := <- scope.lookup p, base := b }

/-- The pending text becomes text of the innermost element, unless an element stands before it. -/
def settle : State :=
 if let o :: os := s.opened then
  if s.pending.isEmpty then s
  else if o.element.kids.isEmpty then
   { s with
    pending := []
    opened := { o with element := { o.element with text := .ofList s.pending.reverse } } :: os }
  else { s with pending := [] }
 else { s with pending := [] }

def close (e : Element) : State :=
 if let o :: os := s.opened then { s with opened := { o with element := o.element.push e } :: os }
 else { s with root := e }

def after (mark : String) : List Char -> Option (List Char)
 | [] => none
 | c :: cs => if mark.toList.isPrefixOf (c :: cs) then ((c :: cs).drop mark.length) else after mark cs

def afterType (depth : Nat) (quote : Option Char) : List Char -> Option (List Char)
 | [] => none
 | c :: cs =>
  if let some q := quote then afterType depth (if c = q then none else quote) cs
  else
   if c = '"' || c = '\'' then afterType depth c cs
   else if c = '[' then afterType (depth + 1) none cs
   else if c = ']' then afterType (depth - 1) none cs
   else if c = '>' && depth = 0 then cs
   else afterType depth none cs

def openTag : Option State := do
 let (label, rest) <- name? cs
 let (attrs, ended, rest) <- attributes? (rest.length + 1) [] rest
 let s := settle s
 let scope := if let o :: _ := s.opened then o.scope else [("xml", xmlSpace)]
 let scope <- scopeInside scope attrs
 let name <- resolve scope label true
 let own <- (attrs.filter fun p => p.1 != "xmlns" && !Text.startsWith p.1 "xmlns:").mapM fun (k, v) =>
  return (<- resolve scope k false, v)
 if (own.map (·.1)).eraseDups.length != own.length then none
 let e := { name, attrs := own }
 if s.opened.isEmpty && s.root.isSome then none
 else if ended then return close { s with rest } e
 else return { s with rest, opened := { label, element := e, scope } :: s.opened }

def closeTag : Option State := do
 let (label, rest) <- name? cs
 let '>' :: rest := skipBlanks rest | none
 let s := settle s
 let o :: os := s.opened | none
 if o.label = label then return close { s with rest, opened := os } o.element else none

def step : Option State :=
 let inside := !s.opened.isEmpty
 match s.rest with
 | [] => some s
 | '<' :: '/' :: cs => closeTag s cs
 | '<' :: '!' :: '-' :: '-' :: cs => do
  let rest <- after "--" cs
  let '>' :: rest := rest | none
  return { s with rest }
 | '<' :: '!' :: cs =>
  if "[CDATA[".toList.isPrefixOf cs then
   if inside then
    let cs := cs.drop 7
    (after "]]>" cs).map fun rest =>
     { s with rest, pending := (cs.take (cs.length - rest.length - 3)).reverse ++ s.pending }
   else none
  else if "DOCTYPE".toList.isPrefixOf cs && !inside && s.root.isNone && !s.typed then
   let cs := cs.drop 7
   if cs.head?.any isBlank && (name? (skipBlanks cs)).isSome then
    (afterType 0 none cs).map fun rest => { s with rest, typed := true }
   else none
  else none
 | '<' :: '?' :: cs => do
  let (dst, rest) <- name? cs
  if dst.toLower = "xml" || !(rest.head?.any isBlank || "?>".toList.isPrefixOf rest) then none
  else return { s with rest := <- after "?>" rest }
 | '<' :: cs => openTag s cs
 | '&' :: cs =>
  if inside then (reference? cs).map fun (c, rest) => { s with rest, pending := c :: s.pending } else none
 | c :: cs =>
  if inside then
   if "]]>".toList.isPrefixOf (c :: cs) || !isAllowed c.toNat then none
   else some { s with rest := cs, pending := c :: s.pending }
  else if isBlank c then some { s with rest := cs }
  else none

def steps : Nat -> State -> Option State
 | 0, s => s
 | n + 1, s => if s.rest.isEmpty then s else (step s).bind (steps n)

def unifyLines : List Char -> List Char
 | [] => []
 | '\r' :: '\n' :: cs | '\r' :: cs => '\n' :: unifyLines cs
 | c :: cs => c :: unifyLines cs

/-- The settings in a declaration: a word, an equals sign and a quoted value, with a blank before each. -/
def settings? : Nat -> List Char -> Option (List (String × String))
 | 0, _ => none
 | n + 1, cs =>
  match skipBlanks cs with
  | [] => some []
  | next =>
   if next.length = cs.length then none
   else do
    let (word, rest) := next.span Char.isAlpha
    let '=' :: rest := skipBlanks rest | none
    let q :: rest := skipBlanks rest | none
    let (value, rest) := rest.span fun c => c.isAlphanum || c = '.' || c = '-' || c = '_'
    if (q = '"' || q = '\'') && rest.head? = q then
     return (.ofList word, .ofList value) :: (<- settings? n rest.tail)
    else none

structure Declaration where
 encoding : Option String := none

/-- The version comes first; the encoding and whether the document stands alone may follow. -/
def Declaration.ofSettings? (xs : List (String × String)) : Option Declaration := do
 let ("version", _) :: xs := xs | none
 let (encoding, xs) := match xs with
  | ("encoding", e) :: xs => (some e, xs)
  | xs => (none, xs)
 if encoding.all (·.toList.head?.any Char.isAlpha) && (xs == [] || xs == [("standalone", "yes")] || xs == [("standalone", "no")]) then
  some { encoding }
 else none

def declaration : Option (Declaration × List Char) :=
 if "<?xml".toList.isPrefixOf cs && (cs.drop 5).head?.any isBlank then do
  let rest <- after "?>" cs
  let body := (cs.drop 5).take (cs.length - rest.length - 7)
  return (<- Declaration.ofSettings? (<- settings? (body.length + 1) body), rest)
 else some ({}, cs)

def parse (s : String) : Res Element :=
 let cs := unifyLines s.toList
 let cs := if let c :: rest := cs then if c.toNat = 0xfeff then rest else cs else []
 let found := do
  let (_, rest) <- declaration cs
  let s <- steps (rest.length + 1) { rest }
  if s.opened.isEmpty then s.root else none
 .opt .badMarkup found

def parseBytes (bs : List UInt8) : Res Element := do
 let plain := String.ofList (bs.map (.ofNat ·.toNat))
 let encoding := (((declaration plain.toList).bind (·.1.encoding)).getD "utf-8").toLower
 if encoding = "utf-8" || encoding = "utf8" then
  let some s := String.fromUTF8? ⟨bs.toArray⟩ | .error .badMarkup
  parse s
 else if encoding = "iso-8859-1" || encoding = "latin-1" || encoding = "latin1" then parse plain
 else if encoding = "us-ascii" || encoding = "ascii" then if bs.all (· < 128) then parse plain else .error .badMarkup
 else .error .noSuchMember

end DexLens.Markup
