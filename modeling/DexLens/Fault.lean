/-! # Why an analysis stops

Every operation that can fail names the cause. Only causes that concern graphs carry a text.
-/

namespace DexLens

inductive GraphFault where
 /-- A graph is malformed or an argument does not fit it. -/
 | fail
 | algorithm
 | general
 | noPath
 /-- The operation is not defined for this kind of graph. -/
 | unsupported
 /-- The question has no meaning for an empty graph. -/
 | pointless
 | unbounded
 | unfeasible
 | tooWide
 deriving DecidableEq

inductive Fault where
 /-- A fixed-width number was cut off by the end of the data, or does not fit its width. -/
 | cutOff
 | noKey
 | beyond
 /-- A thing does not have the part that was asked for. -/
 | noPart
 /-- A value is of a kind the operation does not take. -/
 | badKind
 /-- A value is of the right kind but not admissible. -/
 | badVal
 | byZero
 | noSuchMember
 | badRequest
 /-- A name is used before anything is bound to it. -/
 | unbound
 | unknownName
 /-- A condition that was taken for granted does not hold. -/
 | broken
 | exhausted
 | notImplemented
 | badPattern
 | badJson
 | badMarkup
 | badGrammar
 | noSuchFile
 /-- A path names a directory where a file is needed. -/
 | isDirectory
 /-- Bytes that are not text in the expected encoding. -/
 | undecodable
 /-- Text that cannot be written in the expected encoding. -/
 | unencodable
 | missingComponent
 | missingImport
 | overflow
 | tooDeep
 | interrupted
 | gaveUp
 | suspicious
 /-- A numeric method failed on a singular matrix or did not converge. -/
 | singular
 | degenerate
 /-- An array of whole numbers cannot take other numbers. -/
 | inexact
 /-- An iterative eigenvalue method did not converge. -/
 | noConvergence
 | endless
 /-- A report holds something that cannot be written down. -/
 | unprintable
 /-- A failure was to be passed on where there was none. -/
 | nothingFailed
 | unspecified
 | graph (kind : GraphFault) (message : String)
 deriving DecidableEq

/-- A computation that ends in a value or in the cause of its failure. -/
abbrev Res := Except Fault

def Res.opt {α : Type} (cause : Fault) : Option α -> Res α
 | some a => .ok a
 | none => .error cause

end DexLens
