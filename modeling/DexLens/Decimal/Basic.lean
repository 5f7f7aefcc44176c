import DexLens.Text.Basic

/-! # Decimal forms of floating-point numbers

A finite number is `mantissa * 2 ^ exponent` up to its sign. Its decimal digits are found in exact arithmetic.
-/

namespace DexLens.Decimal

open String Text

variable (v : Magnitude) (x : Float) (n : Nat) (ds : String) (k : Int)

/-- The size of a finite floating-point number: `mantissa * 2 ^ exponent`. -/
structure Magnitude where
 mantissa : Nat
 exponent : Int

inductive Shape where
 | notANumber
 | infinite (negative : Bool)
 | finite (negative : Bool) (size : Magnitude)

def shape : Shape :=
 let bits := x.toBits.toNat
 let negative := bits / .pow 2 63 == 1
 let e := bits / .pow 2 52 % 2048
 let f := bits % .pow 2 52
 if e == 2047 then if f == 0 then .infinite negative else .notANumber
 else if e == 0 then .finite negative ⟨f, -1074⟩
 else .finite negative ⟨f + .pow 2 52, e - 1075⟩

def roundDiv (num den : Nat) : Nat :=
 let q := num / den
 let r := num % den
 if 2 * r > den || 2 * r == den && q % 2 == 1 then q + 1 else q

def power (b : Nat) (e : Int) : Nat × Nat := if e < 0 then (1, .pow b e.natAbs) else (.pow b e.natAbs, 1)

def Magnitude.over (s : Int) : Nat × Nat :=
 let (a, b) := power 2 v.exponent
 let (c, d) := power 10 s
 (v.mantissa * a * d, b * c)

def Magnitude.leading : Int :=
 let k := (Nat.log2 v.mantissa + v.exponent) * 30103 / 100000
 let atLeast k : Bool := let (n, d) := v.over k; d ≤ n
 if atLeast (k + 1) then k + 1 else if atLeast k then k else k - 1

/-- `n` significant digits, as a whole number of `n` digits, and the power of ten of the first. -/
def Magnitude.significant : Nat × Int :=
 let k := v.leading
 let (a, b) := v.over (k - n + 1)
 let d := roundDiv a b
 if d == .pow 10 n then (.pow 10 (n - 1), k + 1) else (d, k)

def Magnitude.places (v : Magnitude) (places : Nat) : Nat :=
 let (a, b) := v.over (-places)
 roundDiv a b

/-- Does the decimal `d * 10 ^ s` lie between the midpoints to the two neighbours? They count when the mantissa is
    even. -/
def Magnitude.readsBack (d : Nat) (s : Int) : Bool :=
 let narrow := v.mantissa == .pow 2 52 && v.exponent > -1074
 let lo := if narrow then 4 * v.mantissa - 1 else 4 * v.mantissa - 2
 let hi := 4 * v.mantissa + 2
 let (a, b) := power 2 (v.exponent - 2)
 let (c, e) := power 10 s
 let x := d * c * b
 let low := lo * a * e
 let high := hi * a * e
 if v.mantissa % 2 == 0 then low ≤ x && x ≤ high else low < x && x < high

/-- The candidate with `n` digits that is nearest to the magnitude among those that read back. -/
def Magnitude.tryDigits (n : Nat) : Option (Nat × Int) :=
 let s := k - n + 1
 let (a, b) := v.over s
 let d := a / b
 let below := v.readsBack d s
 let above := v.readsBack (d + 1) s
 let pick :=
  if below && above then
   let r := 2 * (a % b)
   if r > b || r == b && d % 2 == 1 then some (d + 1) else d
  else if below then d
  else if above then some (d + 1)
  else none
 pick.map (·, s)

/-- The fewest digits that read back, and the power of ten of the last one. -/
def Magnitude.shortest : Nat × Int :=
 let k := v.leading
 match (List.range' 1 17).findSome? (v.tryDigits k) with
 | some r => r
 | none => let (d, k) := v.significant 17; (d, k - 16)

def digits : String := toString n

def trimZeros (s : String) : String := stripBack "0" s

/-- Shortest digits without zeros at the end, and the power of ten of the first one. -/
def Magnitude.shortestDigits : String × Int :=
 let (d, s) := v.shortest
 let ds := digits d
 let k := s + ds.length - 1
 let t := trimZeros ds
 (if t.isEmpty then "0" else t, k)

def exponentText : String := (if k < 0 then "e-" else "e+") ++ padLeft 2 '0' (toString k.natAbs)

def pointed : String :=
 match ds.toList with
 | [] => "0"
 | [c] => c.toString
 | c :: cs => c.toString ++ "." ++ ofList cs

def positional : String :=
 if k < 0 then "0." ++ times (k.natAbs - 1) "0" ++ ds
 else
  let cs := ds.toList
  let n := k.toNat + 1
  let whole := cs.take n ++ .replicate (n - cs.length) '0'
  let frac := cs.drop n
  ofList whole ++ "." ++ if frac.isEmpty then "0" else ofList frac

def signed (negative : Bool) (s : String) : String := if negative then "-" ++ s else s

/-- Positional from `0.0001` up to below `1e16`, always with a point or an exponent. -/
def shortestText : String :=
 match shape x with
 | .notANumber => "nan"
 | .infinite neg => signed neg "inf"
 | .finite neg v =>
  if v.mantissa == 0 then signed neg "0.0"
  else
   let (ds, k) := v.shortestDigits
   signed neg (if -4 ≤ k && k < 16 then positional ds k else pointed ds ++ exponentText k)

def scientific (x : Float) : String :=
 match shape x with
 | .notANumber => "nan"
 | .infinite neg => signed neg "inf"
 | .finite neg v =>
  if v.mantissa == 0 then signed neg (pointed (times (n + 1) "0") ++ exponentText 0)
  else
   let (d, k) := v.significant (n + 1)
   signed neg (pointed (digits d) ++ exponentText k)

def placed (units places : Nat) : String :=
 let ds := (padLeft (places + 1) '0' (digits units)).toList
 let whole := ofList (ds.take (ds.length - places))
 if places = 0 then whole else whole ++ "." ++ ofList (ds.drop (ds.length - places))

def fixed (places : Nat) (x : Float) : String :=
 match shape x with
 | .notANumber => "nan"
 | .infinite neg => signed neg "inf"
 | .finite neg v => signed neg (placed (v.places places) places)

def truncate? : Option Int := do
 let .finite neg v := shape x | none
 let (a, b) := v.over 0
 let n : Int := (a / b : Nat)
 some (if neg then -n else n)

def floor? : Option Int := do
 let .finite neg v := shape x | none
 let (a, b) := v.over 0
 some (if neg then -(((a + b - 1) / b : Nat) : Int) else ((a / b : Nat) : Int))

def fraction? : Option (Int × Nat) := do
 let .finite neg v := shape x | none
 let (a, b) := v.over 0
 let g := .gcd a b
 let n : Int := (a / g : Nat)
 (if neg then -n else n, b / g)

def ofInt (i : Int) : Float := if i < 0 then -.ofNat i.natAbs else .ofNat i.natAbs

end DexLens.Decimal
