import DexLens.Fault
import DexLens.Text.Basic

/-! # Colours written as `#RRGGBB` -/

namespace DexLens.Colour

structure Rgb where
 (red green blue : Int)
 deriving DecidableEq

def component (cs : List Char) (start : Nat) : Res Int :=
 .opt .badVal (Text.intBase? 16 (.ofList ((cs.drop start).take 2)))

def parse (s : String) : Res Rgb := do
 let cs := s.toList
 return ⟨<- component cs 1, <- component cs 3, <- component cs 5⟩

def digits (v : Int) : String :=
 let h := Text.hex v
 Text.upper (if h.length = 1 then "0" ++ h else h)

def Rgb.text (c : Rgb) : String := "#" ++ digits c.red ++ digits c.green ++ digits c.blue

/-- The colour that is `i` of `steps` equal steps from the one to the other, rounded down. -/
def Rgb.between (a b : Rgb) (i steps : Int) : Rgb :=
 let part x y := x + .fdiv ((y - x) * i) steps
 ⟨part a.red b.red, part a.green b.green, part a.blue b.blue⟩

def range (start goal : String) (steps : Int) : Res (List String) := do
 let a <- parse start
 let b <- parse goal
 if steps = 0 then throw .byZero
 return (List.range (steps + 1).toNat).map fun i : Nat => (a.between b i steps).text

end DexLens.Colour
