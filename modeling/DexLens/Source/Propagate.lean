import DexLens.Source.Chains

/-! # Removing what is never used -/

namespace DexLens.Source

structure Woven where
 graph : Graph
 (ud du : Chain)

namespace Woven

variable (w : Woven) (loc : Nat) (x : Name)

/-- The places that use what is written at a place. -/
def uses (place : Int) : List Int := (w.du.of? x place).getD []

/-- The places that write what is used at a place. -/
def srcs (loc : Int) : List Int := (w.ud.of? x loc).getD []

def line? : Option Statement := w.graph.lineAt? loc

def lineAt (loc : Int) : Res Statement := .opt .noPart (w.line? loc.toNat)

def setLine (w : Woven) (loc : Int) (s : Statement) : Woven := { w with graph := w.graph.setLine loc.toNat s }

def removeLine (w : Woven) (loc : Int) : Res Woven :=
 match w.line? loc.toNat with
 | some _ => .ok { w with graph := w.graph.removeLine loc.toNat }
 | none => .error .badVal

def size : Nat := Total.ofNats (w.graph.order.map fun n => (w.graph.block n).lines.length)

/-- A statement without any use goes, after `release` has made it forget its own uses, unless it does something
    besides; a call only loses its target. -/
def discard (release : Woven -> Int -> Res Woven) (loc : Int) (s : Statement) : Res Woven := do
 if s.isCall then return w.setLine loc s.dropTarget
 else if s.hasEffect then return w
 else (<- release w loc).removeLine loc

/-- Forget a use; a definition that loses its last use is discarded. -/
def giveUp (release : Woven -> Int -> Res Woven) (loc : Int) (x : Name) (w : Woven) (place : Int) :
  Res Woven := do
 let w := { w with du := <- w.du.drop x place loc }
 if place ≥ 0 && (w.uses x place).isEmpty then w.discard release place (<- w.lineAt place) else return w

/-- Forget the uses at a place. -/
def release : Nat -> Woven -> Int -> Res Woven
 | 0, _, _ => .error .tooDeep
 | depth + 1, w, loc => do
  (<- w.lineAt loc).used.foldlM (fun w x => (w.srcs x loc).eraseDups.foldlM (giveUp (release depth) loc x) w) w

def eliminateAt : Res Woven := do
 match w.line? loc with
 | none => return w
 | some s =>
  match s.target? with
  | none => return w
  | some x => if (w.du.of? x loc).isSome then return w else w.discard (release (w.size + 2)) loc s

def eliminate : Res Woven :=
 w.graph.order.foldlM (fun w n => ((w.graph.block n).lines.map Line.loc).foldlM eliminateAt w) w

end Woven

end DexLens.Source

/-! # Moving values to where they are used -/

namespace DexLens.Source

namespace Term

mutual

def size : Term -> Nat
 | leaf _ => 1
 | node _ xs => 1 + sizeAll xs

def sizeAll : List (Name × Term) -> Nat
 | [] => 0
 | (_, x) :: xs => x.size + sizeAll xs

end

end Term

/-- Does no statement in between write to a name or change anything else? Without a name every statement that writes
    nothing is in the way. -/
def Graph.clearLines (g : Graph) (x : Option Name) (first stop : Nat) : Bool :=
 (List.range (stop - first)).all fun i =>
  match g.lineAt? (first + i) with
  | none => true
  | some s => s.target? != x && !s.hasEffect

/-- On all ways back from the second place to the block of the first. -/
def Graph.clearPath (g : Graph) (x : Option Name) (first last : Nat) : Res Bool := do
 match g.blockAt? first, g.blockAt? last with
 | some a, some b =>
  if a = b then return g.clearLines x (first + 1) last
  let some (_, stop) := (g.block a).range | throw .badKind
  if !g.clearLines x (first + 1) stop then return false
  let clear n : Bool :=
   match (g.block n).range with
   | some (lo, hi) => g.clearLines x lo (if lo ≤ last && last ≤ hi then last else hi)
   | none => true
  return (g.net.pathBetween a b).all clear
 | _, _ => throw .noPart

namespace Woven

variable (w : Woven) (x : Name) (s : Statement) (place loc : Nat)

def mayMove : Res Bool := do
 let uses := (w.uses x place).length
 if uses > 1 && !s.value?.any Term.isConst then return false
 if !s.isMovable then return false
 for y in s.used do if !(<- w.graph.clearPath y place loc) then return false
 if s.hasEffect then w.graph.clearPath none place loc else return true

def handOver (y : Name) : Res Woven := do
 match w.ud.of? y place with
 | none => return w
 | some old =>
  let old := if place = loc then old ++ old else old
  let ud := if place = loc then w.ud else w.ud.update y loc (· ++ old)
  let ud := ud.filter (·.1 != (y, (place : Int)))
  let du <- old.foldlM (fun du p => return (<- du.drop y p place).update y p (· ++ [(loc : Int)])) w.du
  return { w with ud, du }

/-- A value cannot become part of itself. -/
def moveValue : Res Woven := do
 let value <- .opt .noPart s.value?
 let use <- w.lineAt loc
 let new <- Statement.modify x value use
 let size s := s.value?.map Term.size
 if place = loc && size new != size use then throw .tooDeep
 let w := w.setLine loc new
 let w := { w with ud := <- w.ud.drop x loc place }
 let s := if place = loc then new else s
 let w <- s.used.foldlM (·.handOver place loc ·) w
 return { w with du := <- w.du.drop x place loc }

/-- Tells whether a statement has become superfluous. -/
def propagateName (loc : Nat) (w : Woven × Bool) (x : Name) : Res (Woven × Bool) := do
 let (w, changed) := w
 match w.ud.of? x loc with
 | some [place] =>
  if place = -1 then return (w, changed)
  let s <- w.lineAt place
  if !(<- w.mayMove x s place.toNat loc) then return (w, changed)
  let w <- w.moveValue x s place.toNat loc
  if (w.uses x place).isEmpty then return (<- w.removeLine place, true)
  return (w, changed)
 | _ => return (w, changed)

def propagateAt (w : Woven × Bool) (loc : Nat) : Res (Woven × Bool) :=
 match w.1.line? loc with
 | none => .ok w
 | some s => s.used.foldlM (propagateName loc) w

def propagateOnce : Res (Woven × Bool) :=
 w.graph.order.foldlM (fun w n => ((w.1.graph.block n).lines.map Line.loc).foldlM propagateAt w) (w, false)

def propagateLoop : Nat -> Woven -> Res Woven
 | 0, _ => .error .endless
 | fuel + 1, w => do
  let (w, changed) <- w.propagateOnce
  if changed then propagateLoop fuel w else return w

def propagate : Res Woven := propagateLoop (w.size + 2) w

end Woven

end DexLens.Source
