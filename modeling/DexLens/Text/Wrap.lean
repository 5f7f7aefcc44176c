import DexLens.Pattern.Reader
import DexLens.Word

/-! # Wrapping text

Words, blanks and parts of hyphenated words fill lines of a width. A word that is too long is broken.
-/

namespace DexLens.Text

open Pattern

variable (c : Char)

def expandTabs (s : String) : String :=
 let step := fun acc c =>
  if c = '\t' then
   let n := 8 - acc.2 % 8
   (.replicate n ' ' ++ acc.1, acc.2 + n)
  else (c :: acc.1, if c = '\n' || c = '\r' then 0 else acc.2 + 1)
 .ofList (s.toList.foldl step ([], 0)).1.reverse

def isSpace : Bool := c = ' ' || '\t' ≤ c && c ≤ '\r'

def isWordMark : Bool := isWord c || "!\"'&.,?".toList.contains c

def isLetter : Bool := isWord c && !c.isDigit

def startsDash (cs : List Char) : Bool :=
 let n := (cs.takeWhile (· = '-')).length
 n ≥ 2 && ((cs.drop n).head?.map isWord).getD false

/-- May a hyphen between these two parts end a piece? The part before is given backwards. -/
def hyphenates (before after : List Char) : Bool :=
 let lead := match before with
  | a :: b :: rest => (isLetter a && isLetter b) || (isLetter a && b = '-' && (rest.head?.map isLetter).getD false)
  | _ => false
 let follow := match after with
  | a :: b :: rest => isLetter a && (isLetter b || (b = '-' && (rest.head?.map isLetter).getD false))
  | _ => false
 lead && follow

/-- The length of the word piece at the start of a text, given what stands before it. -/
def pieceLength (before : List Char) : List Char -> Nat
 | [] => 0
 | c :: rest =>
  let before := c :: before
  match rest with
  | [] => 1
  | d :: more =>
   if d = '-' && hyphenates before more then 2
   else if isSpace d then 1
   else if isWordMark c && startsDash rest then 1
   else 1 + pieceLength before rest

def chunks (before : List Char) : Nat -> List Char -> List (List Char)
 | 0, _ => []
 | _, [] => []
 | fuel + 1, c :: rest =>
  let cs := c :: rest
  let n :=
   if isSpace c then (cs.takeWhile isSpace).length
   else if (before.head?.map isWordMark).getD false && startsDash cs then (cs.takeWhile (· = '-')).length
   else pieceLength before cs
  let part := cs.take n
  part :: chunks (part.reverse ++ before) fuel (cs.drop n)

def isBlankChunk (c : List Char) : Bool := c.all isBlank

def fill (width : Nat) : Nat -> List (List Char) -> List (List Char) × List (List Char)
 | _, [] => ([], [])
 | used, c :: cs =>
  if used + c.length ≤ width then
   let (line, rest) := fill width (used + c.length) cs
   (c :: line, rest)
  else ([], c :: cs)

/-- After the last hyphen that fits and follows something other than a hyphen, or at the end of the line. -/
def breakAt (room : Nat) (c : List Char) : Nat :=
 let head := c.take room
 match (List.range head.length).reverse.find? fun i => head[i]? = some '-' with
 | some i => if i > 0 && (head.take i).any (· ≠ '-') then i + 1 else room
 | none => room

def fillLines (width : Nat) : Nat -> Bool -> List (List Char) -> List (List Char)
 | 0, _, _ => []
 | _, _, [] => []
 | fuel + 1, isFirst, c :: cs =>
  let cs := if isBlankChunk c && !isFirst then cs else c :: cs
  let (line, rest) := fill width 0 cs
  let used := Total.ofNats (line.map List.length)
  let (line, rest) := if let w :: more := rest then
    if w.length > width then
     let n := breakAt (width - used) w
     (line ++ [w.take n], w.drop n :: more)
    else (line, rest)
   else (line, rest)
  let line := if let some l := line.getLast? then if isBlankChunk l then line.dropLast else line else line
  if line.isEmpty then fillLines width fuel isFirst rest
  else line.flatten :: fillLines width fuel false rest

def wrap (width : Nat) (s : String) : List String :=
 let cs := (expandTabs s).toList.map fun c => if isSpace c then ' ' else c
 let parts := chunks [] cs.length cs
 (fillLines width (2 * cs.length + 1) true parts).map .ofList

end DexLens.Text
