import DexLens.Fault
import DexLens.Decimal.Basic

/-! # JSON values

Objects keep the order of their members, and whole numbers of any size are told apart from others.
-/

namespace DexLens

inductive Json where
 | null
 | bool (b : Bool)
 | int (i : Int)
 /-- A number written with a fraction or an exponent, and the three values that are no numbers. -/
 | float (x : Float)
 | written (digits : String)
 | str (s : String)
 | arr (items : List Json)
 | obj (members : List (String × Json))
 /-- In a report, the place of a value that could not be had. -/
 | failed (cause : Fault)

namespace Json

instance : Coe String Json := ⟨str⟩
instance : Coe Int Json := ⟨int⟩
instance : Coe Bool Json := ⟨bool⟩
instance : Coe (List Json) Json := ⟨arr⟩

def nat (n : Nat) : Json := .int n

instance : Coe Nat Json := ⟨nat⟩

def get? (key : String) : Json -> Option Json
 | obj members => (members.reverse.find? (·.1 == key)).map (·.2)
 | _ => none

def opt {α : Type} (f : α -> Json) : Option α -> Json
 | some a => f a
 | none => .null

def ofList {α : Type} (f : α -> Json) (xs : List α) : Json := xs.map f

def ofStrings (xs : List String) : Json := .arr (xs.map .str)

def str? : Json -> Option String
 | str s => some s
 | _ => none

def int? : Json -> Option Int
 | int i => some i
 | _ => none

def arr? : Json -> Option (List Json)
 | arr xs => some xs
 | _ => none

/-- The members of an object, a repeated name at its first place with its last value. -/
def members? : Json -> Option (List (String × Json))
 | obj ms =>
  some (ms.foldl (fun acc m =>
   if acc.any (·.1 == m.1) then acc.map fun p => if p.1 == m.1 then m else p
   else acc ++ [m]) [])
 | _ => none

def ofRes : Res Json -> Json
 | .ok j => j
 | .error f => .failed f

def rank : Json -> Nat
 | null => 0
 | bool false => 1
 | bool true => 2
 | int _ => 3
 | float _ => 3
 | written _ => 3
 | str _ => 4
 | arr _ => 5
 | obj _ => 6
 | failed _ => 7

end Json

end DexLens

/-! # Writing JSON

Without blanks. Characters outside printable ASCII are escaped.
-/

namespace DexLens.Json

def unitEscape (n : Nat) : String := "\\u" ++ Text.padLeft 4 '0' (Text.hexNat n)

def escapeChar (c : Char) : String :=
 if c = '"' then "\\\""
 else if c = '\\' then "\\\\"
 else if c = '\n' then "\\n"
 else if c = '\r' then "\\r"
 else if c = '\t' then "\\t"
 else
  let n := c.toNat
  if 32 ≤ n && n < 127 then c.toString
  else if n == 8 then "\\b"
  else if n == 12 then "\\f"
  else if n < 0x10000 then unitEscape n
  else unitEscape (0xd800 + (n - 0x10000) / 0x400) ++ unitEscape (0xdc00 + (n - 0x10000) % 0x400)

def quote (s : String) : String := s.foldl (· ++ escapeChar ·) "\"" ++ "\""

/-- How a number with a fraction is written is up to the caller. -/
structure Style where
 number : Float -> String
 /-- What stands in the place of a value that could not be had. -/
 failure : Fault -> String
 (comma colon : String)

mutual

def write (st : Style) (out : String) : Json -> String
 | null => out ++ "null"
 | bool true => out ++ "true"
 | bool false => out ++ "false"
 | int i => out ++ toString i
 | float x => out ++ st.number x
 | written s => out ++ s
 | str s => out ++ quote s
 | arr xs => writeItems st (out ++ "[") true xs ++ "]"
 | obj ms => writeMembers st (out ++ "\x7b") true ms ++ "\x7d"
 | failed cause => out ++ st.failure cause

def writeItems (st : Style) (out : String) (isFirst : Bool) : List Json -> String
 | [] => out
 | x :: xs => writeItems st (write st (if isFirst then out else out ++ st.comma) x) false xs

def writeMembers (st : Style) (out : String) (isFirst : Bool) : List (String × Json) -> String
 | [] => out
 | (k, v) :: ms =>
  writeMembers st (write st ((if isFirst then out else out ++ st.comma) ++ quote k ++ st.colon) v) false ms

end

def render (st : Style) (j : Json) : String := write st "" j

end DexLens.Json

/-! # Values in running text -/

namespace DexLens.Json

open Decimal

mutual

def quoted : Json -> String
 | null => "None"
 | bool b => if b then "True" else "False"
 | int i => toString i
 | float x => shortestText x
 | written s => s
 | str s => Text.quoted s
 | arr xs => "[" ++ ", ".intercalate (quotedItems xs) ++ "]"
 | obj ms => "\x7b" ++ ", ".intercalate (quotedMembers ms) ++ "\x7d"
 | failed _ => "None"

def quotedItems : List Json -> List String
 | [] => []
 | x :: xs => quoted x :: quotedItems xs

def quotedMembers : List (String × Json) -> List String
 | [] => []
 | (k, x) :: ms => (Text.quoted k ++ ": " ++ quoted x) :: quotedMembers ms

end

def shown : Json -> String
 | str s => s
 | j => quoted j

/-! # Values in reports

Floating-point numbers are written with ten leading digits, those too small to matter as zero.
-/

def reportNumber (x : Float) : String :=
 if x.isNaN then "nan"
 else if x.isInf then if x > 0 then "inf" else "-inf"
 else if x.abs < 1e-12 then "0"
 else scientific 9 x

def rounded (x : Float) : Float :=
 match shape x with
 | .finite neg v =>
  if v.mantissa == 0 || x.abs < 1e-12 then 0.0
  else
   let (d, k) := v.significant 10
   let s := k - 9
   let y := if s < 0 then Float.ofScientific d true s.natAbs else .ofScientific d false s.natAbs
   if neg then -y else y
 | _ => x

def compareFloat (a b : Float) : Ordering :=
 if a == b then .eq
 else
  let x := rounded a
  let y := rounded b
  if x < y then .lt else if x > y then .gt else .eq

mutual

/-- The order in which reports sort values: nothing, truth values, numbers, texts, lists, objects. -/
def compareValues : Json -> Json -> Ordering
 | int a, int b => compare a b
 | float a, float b => compareFloat a b
 | int a, float b => compareFloat (ofInt a) b
 | float a, int b => compareFloat a (ofInt b)
 | str a, str b => compare a b
 | arr a, arr b => compareItems a b
 | obj a, obj b => compareMembers a b
 | a, b => compare a.rank b.rank

def compareItems : List Json -> List Json -> Ordering
 | [], [] => .eq
 | [], _ :: _ => .lt
 | _ :: _, [] => .gt
 | a :: as, b :: bs =>
  match compareValues a b with
  | .eq => compareItems as bs
  | o => o

def compareMembers : List (String × Json) -> List (String × Json) -> Ordering
 | [], [] => .eq
 | [], _ :: _ => .lt
 | _ :: _, [] => .gt
 | (k, a) :: as, (l, b) :: bs =>
  match compare k l with
  | .eq =>
   match compareValues a b with
   | .eq => compareMembers as bs
   | o => o
  | o => o

end

def sortValues (xs : List Json) : List Json := xs.mergeSort (compareValues · · != .gt)

variable (failure : Fault -> String)

def reportStyle : Style where
 failure
 number := fun x => "\x7b\"f\":" ++ quote (reportNumber x) ++ "\x7d"
 comma := ","
 colon := ":"

def report (j : Json) : String := render (reportStyle failure) j

end DexLens.Json
