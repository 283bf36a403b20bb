/-
# Log levels

Messages have a severity, and a threshold decides which of them are shown. A threshold is
chosen by its name in any mix of cases; names that are unknown, like no name at all,
choose warnings.
-/

namespace SexpReader.Command

/-- How much a message matters. -/
inductive Severity
  | debug
  | info
  | error
  deriving DecidableEq, Repr

/-- The rank of a severity among all thresholds. -/
def Severity.rank : Severity → Nat
  | debug => 10
  | info => 20
  | error => 40

/-- Messages of at least this rank are shown. -/
abbrev Threshold := Nat

namespace Threshold

/-- The threshold of warnings, above informative messages and below errors. -/
def warning : Threshold := 30

/-- The names of the thresholds. -/
def names : List (String × Threshold) :=
  [("CRITICAL", 50), ("FATAL", 50), ("ERROR", 40), ("WARNING", 30), ("WARN", 30), ("INFO", 20),
   ("DEBUG", 10), ("NOTSET", 0)]

/-- The capital of a letter. Besides the basic letters only the dotless i and the long s
have a basic letter as their capital, so no other character can take part in the name of a
threshold. -/
def capital (c : Char) : Char :=
  if c = 'ı' then 'I' else if c = 'ſ' then 'S' else c.toUpper

/-- The threshold of a given name. -/
def ofName? (name : String) : Option Threshold :=
  names.lookup (String.ofList (name.toList.map capital))

/-- The threshold that a setting chooses. -/
def ofSetting (setting : Option String) : Threshold :=
  (setting.bind ofName?).getD warning

end Threshold

/-- Whether messages of a severity are shown. -/
def Severity.isShown (severity : Severity) (threshold : Threshold) : Bool :=
  threshold ≤ severity.rank

end SexpReader.Command
