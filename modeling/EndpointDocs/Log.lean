import EndpointDocs.Text.CodePoint

/-!
What a run reports while it works.
-/
namespace EndpointDocs

inductive Level where
  | info
  | error
  deriving DecidableEq, Repr

structure LogEntry where
  level : Level
  message : Wide
  deriving DecidableEq, Repr

abbrev Log := List LogEntry

/-- A report that work was done. -/
def LogEntry.info (message : Wide) : LogEntry :=
  ⟨.info, message⟩

/-- A report that something failed and was left out. -/
def LogEntry.error (message : Wide) : LogEntry :=
  ⟨.error, message⟩

def Level.name : Level → String
  | .info => "INFO"
  | .error => "ERROR"

end EndpointDocs
