/-!
# Captured output

What a script printed on its two streams, and how it ended.
-/
namespace InlineLinkage

structure Captured where
  stdout : String := ""
  stderr : String := ""
  /-- There is none after the end by a signal. -/
  exitCode : Option Int := none
  timedOut : Bool := false
  deriving DecidableEq, Repr

end InlineLinkage
