import DexLens.CallGraph.Basic
import DexLens.Descriptor

/-! # Making call graphs -/

namespace DexLens.CallGraph.Build

variable (kind : NodeKind)
 (ms : List Sig) (key mark label : String) (real : Bool) (cs : List Call) (m : Sig)

def markKey (src dst : Sig) (mark : String) : String := src.key ++ " " ++ dst.key ++ " " ++ mark

/-- Go on with the node of a key, if there is one. -/
def seek (absent : Build Unit) (go : Nat -> Build Unit) : Build Unit := do
 match <- find? key with
 | none => absent
 | some n => go n

def classNode (cls : String) : Build Nat := do
 let n <- node .cls cls cls false
 update n fun x => { x with cls := cls }
 return n

def addMethod : Build Unit := do
 let n <- methodNode (.ofSig m.name) m
 belongs n m
 place n

def addMethods : Build Unit := ms.forM addMethod

def addCall (c : Call) : Build Unit :=
 seek c.src.key (throw .noPart) fun u => seek c.dst.key (throw .noPart) (edge u)

def addCalls : Build Unit := cs.forM addCall

/-- The class of a constructor or static initializer. -/
def addClass : Build Unit := do
 if m.name == "<init>" || m.name == "<clinit>" then
  let u <- find? m.key
  let v <- classNode m.cls
  match u with
  | none => throw .noPart
  | some u => if m.name == "<clinit>" then edge u v else edge v u

def addClasses : Build Unit := ms.forM addClass

/-- A mark that hangs below the method with a certain call. The source of the call must have a node. -/
def addMark (c : Call) : Build Unit :=
 seek c.src.key (throw .badKind) fun u => do
  let v <- node kind (markKey c.src c.dst mark) label real
  belongs v c.src
  edge u v

def addMarks : Build Unit := cs.forM (addMark kind mark label real)

/-- The mark of a part of the application, above the method where the system enters it. -/
def addEntry : Build Unit :=
 seek m.key (pure ()) fun u => do
  edge (<- node kind (m.key ++ " " ++ mark) mark false) u
  entry u

def addEntries (name desc : String) (parts : List String) : Build Unit :=
 parts.forM fun part => addEntry kind mark ⟨Descriptor.ofDottedName part, name, desc⟩

variable (perm : String)

/-- A permission that a method needs, below a node. -/
def require (m : Sig) (n : Nat) : Build Unit := do
 let v <- node .permission key perm false
 belongs v m
 protect v perm
 edge n v

def addPermission (c : Call) : Build Unit :=
 seek c.src.key (pure ()) (require (markKey c.src c.dst "PERMISSION" ++ " " ++ perm) perm c.dst)

def addPermissions (cs : List (String × Call)) : Build Unit := cs.forM fun (perm, c) => addPermission perm c

/-- A constructor leads to the start of a thread. -/
def addConstructor (start : Nat) (c : Sig) : Build Unit := do
 edge (<- methodNode .constructor { c with name := "<init>" }) start

/-- The start of a thread leads to its body. -/
def addThread (t : ThreadBody) : Build Unit := do
 let body <- methodNode .method t.body
 let start <- methodNode .method { t.body with name := "start" }
 edge start body
 t.constructors.forM (addConstructor start)

def addThreads (ts : List ThreadBody) : Build Unit := ts.forM addThread

def addParts : Option Components -> Build Unit
 | none => pure ()
 | some a => do
  addEntries .activity "ACTIVITY" "onCreate" "(Landroid/os/Bundle;)V" a.activities
  addEntries .service "SERVICE" "onCreate" "()V" a.services
  addEntries .service "RECEIVER" "onReceive" "(Landroid/content/Context;Landroid/content/Intent;)V" a.receivers

def addFile (f : Facts) (parts : Option Components) : Build Unit := do
 addMethods f.called
 addCalls f.calls
 addClasses f.called
 addMarks .hiddenCall "REFL_INVOKE" "REFLECTION INVOKE" true f.invokes
 addMarks .hiddenMaking "REFL_NEWINSTANCE" "REFLECTION NEW INSTANCE" true f.makings
 addParts parts
 addPermissions f.protected'
 addMarks .load "DEXLOAD" "DYNAMIC CODE LOADING" false f.loads
 addThreads f.threads

/-- A node for the permission that a method needs by the rules, below the node of the method. -/
def addNeeded (rules : Rules) (hop dst : Sig) (n : Nat) : Build Unit :=
 match rules.lookup dst.rule with
 | none => pure ()
 | some perm => require (markKey hop dst "PERMISSION" ++ " " ++ perm) perm dst n

/-- A method that was called by reflection, with its class if an object was created. -/
def addReflected (created : Bool) (rules : Rules) (src hop dst : Sig) : Build Unit :=
 seek (markKey src hop mark) (pure ()) fun u => do
  let v <- methodNode kind dst
  belongs v dst
  edge u v
  if created then edge (<- classNode dst.cls) v
  addNeeded rules hop dst v

def addInvocation : Rules -> (src hop dst : Sig) -> Build Unit := addReflected .method "REFL_INVOKE" false

def addInstantiation : Rules -> (src hop dst : Sig) -> Build Unit :=
 addReflected .constructor "REFL_NEWINSTANCE" true

def addLoad (src hop : Sig) (filename : String) : Build Unit :=
 seek (markKey src hop "DEXLOAD") (pure ()) fun u => do
  let v <- node .loadedFile filename filename false
  update v fun x => { x with loaded := filename }
  edge u v

end DexLens.CallGraph.Build
