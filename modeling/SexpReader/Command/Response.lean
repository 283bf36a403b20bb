/-
# Responses

What a run of the command line leaves behind: whether it succeeded, the standard output,
and the notices in the order in which they arose. Whether a notice is shown is decided at
the end by a threshold, so the rest of a response does not depend on the log level.
-/

import SexpReader.Command.Level

namespace SexpReader.Command

/-- A notice: the usage line, which is always shown, or a message of some severity. -/
inductive Notice
  | usage
  | message (severity : Severity) (text : String)
  deriving DecidableEq, Repr

namespace Notice

/-- The usage line. -/
def usageLine : String :=
  "Usage: python -m lispmachine <source-file|-> [sexp|json|lexemes]"

/-- The text of a notice. -/
def text : Notice → String
  | usage => usageLine
  | message _ text => text

/-- Whether a notice is shown under a threshold. -/
def isShown (threshold : Threshold) : Notice → Bool
  | usage => true
  | message severity _ => severity.isShown threshold

end Notice

/-- The outcome of a run. -/
structure Response where
  succeeded : Bool
  output : String
  notices : List Notice
  deriving DecidableEq, Repr

namespace Response

/-- The exit status: zero for success, one for every failure. -/
def status (response : Response) : Nat :=
  if response.succeeded then 0 else 1

/-- The standard error under a threshold: the notices shown, each on a line of its own. -/
def errorOutput (response : Response) (threshold : Threshold) : String :=
  String.join ((response.notices.filter (Notice.isShown threshold)).map fun notice =>
    notice.text ++ "\n")

/-- The response to arguments that are not well-formed. -/
def usage : Response := ⟨false, "", [.usage]⟩

/-- The response to a failure, after the notices that arose before it. -/
def failure (before : List Notice) (text : String) : Response :=
  ⟨false, "", before ++ [.message .error text]⟩

end Response

end SexpReader.Command
