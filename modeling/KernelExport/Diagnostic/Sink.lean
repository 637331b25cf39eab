/-
This file holds the sink: the diagnostics of one export, in the order in which they came, and how
many of them are errors and how many are warnings. Both are counted as diagnostics come.
-/

import KernelExport.Diagnostic.Basic

namespace KernelExport

/-- The diagnostics that came so far, oldest first, and their numbers. -/
structure Sink where
  diagnostics : List Diagnostic := []
  errors : Nat := 0
  warnings : Nat := 0
  deriving DecidableEq, Repr, Inhabited

namespace Sink

/-- Takes in one more diagnostic and counts it. -/
def emit (sink : Sink) (diagnostic : Diagnostic) : Sink :=
  let taken := { sink with diagnostics := sink.diagnostics ++ [diagnostic] }
  match diagnostic.severity with
  | .error => { taken with errors := sink.errors + 1 }
  | .warning => { taken with warnings := sink.warnings + 1 }

/-- Takes in diagnostics one after another. -/
def extend (sink : Sink) (diagnostics : List Diagnostic) : Sink :=
  diagnostics.foldl emit sink

def count (sink : Sink) : Severity → Nat
  | .error => sink.errors
  | .warning => sink.warnings

def hasErrors (sink : Sink) : Bool :=
  0 < sink.count .error

@[simp] theorem diagnostics_emit (sink : Sink) (diagnostic : Diagnostic) :
    (sink.emit diagnostic).diagnostics = sink.diagnostics ++ [diagnostic] := by
  rw [emit]
  cases diagnostic.severity <;> rfl

@[simp] theorem count_emit (sink : Sink) (diagnostic : Diagnostic) (severity : Severity) :
    (sink.emit diagnostic).count severity =
      sink.count severity + if diagnostic.severity = severity then 1 else 0 := by
  rw [emit]
  cases diagnostic.severity <;> cases severity <;> rfl

@[simp] theorem diagnostics_extend (sink : Sink) (diagnostics : List Diagnostic) :
    (sink.extend diagnostics).diagnostics = sink.diagnostics ++ diagnostics := by
  induction diagnostics generalizing sink with
  | nil => exact (List.append_nil _).symm
  | cons diagnostic rest inductionHypothesis =>
    rw [extend, List.foldl_cons, ← extend, inductionHypothesis, diagnostics_emit,
      List.append_assoc, List.singleton_append]

theorem extend_append (sink : Sink) (first second : List Diagnostic) :
    sink.extend (first ++ second) = (sink.extend first).extend second :=
  List.foldl_append

end Sink

end KernelExport
