import Patchwork.Error

/-!
# Diagnostics

A `Diagnostic` is a message with a severity and a code, with labels that point at places in sources,
and with notes. Every reported error is one.
-/

namespace Patchwork

inductive Severity where
  | error
  | warning
  | note
deriving DecidableEq

def Severity.word : Severity → String
  | error => "error"
  | warning => "warning"
  | note => "note"

/-- A place in a source, with something to say about it. -/
structure Label where
  span : Span
  message : String
deriving DecidableEq

structure Diagnostic where
  severity : Severity
  code : String
  message : String
  labels : List Label
  notes : List String
deriving DecidableEq

/-- The diagnostic for a reported error: its span, if it has one, becomes a label without words. -/
def Cause.diagnostic (cause : Cause) (span : Option Span) : Diagnostic where
  severity := .error
  code := cause.kind.code
  message := cause.message
  labels := span.toList.map fun s => ⟨s, ""⟩
  notes := cause.notes

end Patchwork
