import DexLens.Inspect.Basic
import DexLens.Pattern.Matcher
import DexLens.Permission

/-! # Searching the usage of a file

Calls and creations by class, name and descriptor, and what needs a permission.
-/

namespace DexLens.Inspect

open Analysis Dex Pattern

variable (wanted : List String) (cls : String)

def pattern (s : String) : Query Node := .of (read s)

def callsMatching (name desc : String) (p : Package) : Query (List Path) := do
 let n <- pattern name
 let e <- pattern desc
 p.calls.filterM fun path => do
  let (_, dn, dd) <- names (path.dst.getD 0)
  return matchesStart n dn && matchesStart e dd

/-- The calls whose target fits three patterns; the first one may match anywhere in the class. -/
def callsTo (cls name desc : String) : Query (List Path) := do
 let c <- pattern cls
 let ps := (<- usage).pkgs.filter (matchesWithin c ·.name)
 return (<- ps.mapM (callsMatching name desc)).flatten

def hasCalls (cls name : String) : Query Bool := return !(<- callsTo cls name ".").isEmpty

def callsInto : Query (List Path) := do
 let u <- usage
 let c <- pattern cls
 return (u.pkgs.filter (matchesWithin c ·.name)).flatMap (·.calls)

def creationsOf : Query (List Path) := do
 let u <- usage
 let c <- pattern cls
 return (u.pkgs.filter (matchesWithin c ·.name)).flatMap (·.creations)

def callsWhere (keep : List String -> String -> String -> Bool) : Query (List Path) := do
 let u <- usage
 let cs <- classNames
 (u.pkgs.flatMap (·.calls)).filterM fun p => do
  let (src, _, _) <- names p.src
  let (dst, _, _) <- names (p.dst.getD 0)
  return keep cs src dst

def internalCalls : Query (List Path) := callsWhere fun cs src dst => cs.contains src && cs.contains dst

def externalCalls : Query (List Path) := callsWhere fun cs src dst => cs.contains src && !cs.contains dst

def callsFrom : Query (List Path) := callsWhere fun cs src dst => src == cls && cs.contains dst

def internalCreations : Query (List (String × List Path)) := do
 let u <- usage
 let cs <- classNames
 let found <- u.pkgs.mapM fun p => do
  let ps <- p.creations.filterM fun path => do
   let (src, _, _) <- names path.src
   return cs.contains src && cs.contains p.name
  return (p.name, ps)
 return found.filter fun (_, ps) => !ps.isEmpty

def calledMethods : Query (List (String × String × String)) := do
 let u <- usage
 let cs <- classNames
 let found <- (u.pkgs.flatMap (·.calls)).mapM fun p =>
  return [<- names p.src, <- names (p.dst.getD 0)].filter (cs.contains ·.1)
 let compare3 a b := ((compare a.1 b.1).then (compare a.2.1 b.2.1)).then (compare a.2.2 b.2.2) != .gt
 return found.flatten.eraseDups.mergeSort compare3

def hiddenCalls : Query (List Path) := callsTo "Ljava/lang/reflect/Method;" "invoke" "."

def hiddenMakings : Query (List Path) :=
 return (<- callsTo "Ljava/lang/Class;" "newInstance" ".") ++ (<- callsTo "Ljava/lang/reflect/Constructor;" "newInstance" ".")

def loaders : List (String × String) :=
 [("Ldalvik/system/BaseDexClassLoader;", "<init>"), ("Ldalvik/system/PathClassLoader;", "<init>"),
  ("Ldalvik/system/DexClassLoader;", "<init>"), ("Ldalvik/system/DexFile;", "<init>"),
  ("Ldalvik/system/DexFile;", "loadDex")]

def codeLoading : Query (List Path) := do return (<- loaders.mapM fun (cls, name) => callsTo cls name ".").flatten

def anyCalls : List (String × String) -> Query Bool
 | [] => return false
 | (cls, name) :: rest => do if <- hasCalls cls name then return true else anyCalls rest

def usesCryptography : Query Bool := anyCalls [("Ljavax/crypto/.", "."), ("Ljava/security/spec/.", ".")]

def usesDynamicCode : Query Bool :=
 anyCalls [("Ldalvik/system/DexClassLoader;", "."), ("Ljava/security/ClassLoader;", "defineClass"),
  ("Ljava/security/SecureClassLoader;", "defineClass"), ("Ljava/net/URLClassLoader;", ".")]

def usesReflection : Query Bool :=
 anyCalls [("Ljava/lang/reflect/Method;", "."), ("Ljava/lang/reflect/Field;", "."), ("Ljava/lang/Class;", "forName")]

def usesNativeCode : Query Bool := anyCalls [("Ljava/lang/System;", "load."), ("Ljava/lang/Runtime;", "load.")]

def invokesByReflection : Query Bool := anyCalls [("Ljava/lang/reflect/Method;", "invoke")]

def createsByReflection : Query Bool :=
 anyCalls [("Ljava/lang/Class;", "newInstance"), ("Ljava/lang/reflect/Constructor;", "newInstance")]

def loadsCode : Query Bool := anyCalls loaders

/-- A place where a permission is needed: a call, or the use of a field. -/
inductive Need where
 | call (p : Path)
 | field (f : FieldUse) (a : Access) (offset method : Nat)

def gather {α : Type} (xs : List (String × List α)) : List (String × List α) :=
 xs.foldl (fun acc (k, v) => Usage.upsert acc k (· ++ v) v) []

/-- The calls that need permissions, by permission. With no permission given, all known ones count. -/
def neededByCalls : Query (List (String × List Need)) := do
 let rules := (<- get).needs.calls
 let u <- usage
 let cs <- classNames
 let found <- (u.pkgs.flatMap (·.calls)).mapM fun p => do
  let (src, _, _) <- names p.src
  let (dc, dn, dd) <- names (p.dst.getD 0)
  if cs.contains src && !cs.contains dc then
   match rules.lookup (dc ++ "-" ++ dn ++ "-" ++ dd) with
   | some perm =>
    let counts := if wanted.isEmpty then Permission.known perm else wanted.contains perm
    return if counts then [(perm, [.call p])] else []
   | none => return []
  else return []
 return gather found.flatten

def neededByFields : Query (List (String × List Need)) := do
 let rules := (<- get).needs.fields
 let u <- usage
 let found := u.fields.filterMap fun f =>
  match rules.lookup (f.cls ++ "-" ++ f.name ++ "-" ++ f.type) with
  | some perm =>
   if wanted.isEmpty || wanted.contains perm then some (perm, f.places.flat.map fun (a, off, m) => .field f a off m)
   else none
  | none => none
 return gather found

/-- All permissions that are needed. Where fields need one, they take the place of the calls. -/
def needed : Query (List (String × List Need)) := do
 let calls <- neededByCalls wanted
 let fields <- neededByFields wanted
 return fields.foldl (fun acc (k, v) => Usage.upsert acc k (fun _ => v) v) calls

end DexLens.Inspect
