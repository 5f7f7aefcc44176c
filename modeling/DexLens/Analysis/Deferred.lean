import DexLens.Analysis.Usage

/-! # Tables on demand

Iterations over methods enter what they visit into the tables of a light survey, and so does the first question
about them. Fields and strings keep to the places that they showed first.
-/

namespace DexLens.Analysis

open Code Dex FieldUse StringUse

abbrev Shown := List (String × List (Access × Nat × Nat))

def Shown.shows (t : Shown) (key : String) (now : List (Access × Nat × Nat)) : List (Access × Nat × Nat) :=
 match t.lookup key with
 | none | some [] => now
 | some before => before

def Shown.note {β : Type} (key : β -> String) (places : β -> Places) (t : Shown) (xs : List β) : Shown :=
 xs.foldl (fun t x => Usage.upsert t (key x) (fun _ => t.shows (key x) (places x).flat) (places x).flat) t

structure Deferred where
 survey : Survey
 /-- The methods that iterations have still to visit, by the number of the iteration. -/
 underway : List (Nat × List MRef)
 (fields strings : Shown)

namespace Deferred

variable (d : File) (s : Deferred) (i : Nat) (method : Nat)

def start : Deferred := ⟨.lightweight, [], [], []⟩

/-- An iteration has got to some methods, and the tables are not filled any more when asked for. -/
def leave (rest : List MRef) (u : Usage) : Deferred :=
 { s with
  survey := { s.survey with resolved := true, usage := u }
  underway := Usage.upsert s.underway i (fun _ => rest) rest }

variable (s : Deferred)

def pending : Res (List MRef) :=
 match s.underway.lookup i with
 | some rest => .ok rest
 | none => d.methods

def next : Res (Option (MRef × Flow)) × Deferred :=
 match s.pending d i with
 | .error e => (.error e, s.leave i [] s.survey.usage)
 | .ok [] => (.ok none, s.leave i [] s.survey.usage)
 | .ok (r :: rest) =>
  match Flow.ofMethod d r with
  | .error e => (.error e, s.leave i [] s.survey.usage)
  | .ok f => (.ok (r, f), s.leave i rest (s.survey.usage.visitMethod d r))

def usage : Res Usage × Deferred :=
 if s.survey.resolved then (.ok s.survey.usage, s)
 else
  let (v, fault) := s.survey.fill d
  (match fault with
   | some e => .error e
   | none => .ok v.usage, { s with survey := v })

def placesIn {β : Type} (key : β -> String) (places : β -> Places) (shown : Shown) (method : Nat) (xs : List β) :
 List (β × List (Access × Nat)) :=
 xs.map fun x => (x, (shown.shows (key x) (places x).flat).filterMap fun (a, off, m) =>
  if m = method then (a, off) else none)

def stringsOf : Res (List (StringUse × List (Access × Nat))) × Deferred :=
 match s.usage d with
 | (.error e, s) => (.error e, s)
 | (.ok u, s) =>
  let xs := (u.stringsOf method).map (·.1)
  (.ok (placesIn text places s.strings method xs), { s with strings := s.strings.note text places xs })

def fieldsOf : Res (List (FieldUse × List (Access × Nat))) × Deferred :=
 match s.usage d with
 | (.error e, s) => (.error e, s)
 | (.ok u, s) =>
  let xs := (u.fieldsOf method).map (·.1)
  (.ok (placesIn key places s.fields method xs), { s with fields := s.fields.note key places xs })

/-- A call. The flow of a single method is found without the tables. -/
inductive Call where
 | next (iteration : Nat)
 | method (r : MRef)
 | pkgs
 | things
 | stringsOf (method : Nat)
 | fieldsOf (method : Nat)
 deriving DecidableEq

def after : Call -> Deferred
 | .next i => (s.next d i).2
 | .method _ => s
 | .pkgs | .things => (s.usage d).2
 | .stringsOf m => (s.stringsOf d m).2
 | .fieldsOf m => (s.fieldsOf d m).2

def run (calls : List Call) : Deferred := calls.foldl (after d) start

end Deferred

end DexLens.Analysis
