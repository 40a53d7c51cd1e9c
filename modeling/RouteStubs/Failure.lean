import RouteStubs.FileSystem.Basic
import RouteStubs.Inputs.Wildcard
import RouteStubs.Syntax.Fault
import RouteStubs.Template.Parser

/-!
# Failures

Why a file cannot be processed. A file that is too large, or whose test file cannot be created, is
passed over; every other failure ends the run.
-/

namespace RouteStubs

/-- Why the inputs of a run cannot be determined. -/
inductive InputProblem where
  | badExclude (pattern : Text) (fault : Wildcard.Fault)
  | badPattern (pattern : Text) (fault : Wildcard.Fault)
  | noMatch (pattern : Text)
  deriving DecidableEq, Repr

/-- The wording of a problem. -/
def InputProblem.message : InputProblem → Text
  | .badExclude p fault => lit "invalid exclude pattern '" ++ p ++ lit "': " ++ fault.message
  | .badPattern p fault => lit "invalid pattern '" ++ p ++ lit "': " ++ fault.message
  | .noMatch p => lit "no files match '" ++ p ++ lit "'"

/-- Why a file cannot be processed. -/
inductive Failure where
  | read (path : Text) (cause : SystemError)
  | tooLarge (path : Text) (size limit : Nat)
  | parse (path : Text) (fault : Syntax.Fault)
  | creation (path : Text) (cause : SystemError)
  | render (path : Text) (cause : SystemError)
  | template (fault : Template.Fault)
  | input (problem : InputProblem)
  deriving DecidableEq, Repr

namespace Failure

/-- The wording of a failure. -/
def message : Failure → Text
  | .read path cause => lit "cannot read '" ++ path ++ lit "': " ++ cause.message
  | .tooLarge path size limit =>
    lit "'" ++ path ++ lit "' is " ++ Text.decimal size ++ lit " bytes, larger than the " ++
      Text.decimal limit ++ lit " byte limit"
  | .parse path fault =>
    path ++ lit ":" ++ Text.decimal fault.location.line ++ lit ":" ++
      Text.decimal fault.location.column ++ lit ": syntax error: " ++ fault.defect.message
  | .creation path cause =>
    lit "error creating test file named: " ++ path ++ lit ": " ++ cause.message
  | .render path cause => lit "error rendering '" ++ path ++ lit "': " ++ cause.message
  | .template fault => lit "invalid template: " ++ fault.message
  | .input problem => problem.message

/-- The failure ends the run. -/
def isFatal : Failure → Bool
  | .tooLarge _ _ _ | .creation _ _ => false
  | _ => true

end Failure

end RouteStubs
