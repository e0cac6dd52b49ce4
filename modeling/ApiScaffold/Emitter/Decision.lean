/-
What becomes of output files, and how often each happened.
-/
namespace ApiScaffold

inductive Decision where
  | written
  | overwritten
  /-- Left alone because its path is protected. -/
  | guarded
  /-- Left alone because the output did not change. -/
  | unchanged
  /-- Left alone because the prompt declined. -/
  | declined
  deriving DecidableEq, Repr, Inhabited

def Decision.text : Decision → String
  | .written => "written"
  | .overwritten => "overwritten"
  | .guarded => "skipped (protected)"
  | .unchanged => "skipped (unchanged)"
  | .declined => "kept (declined)"

/-- How often each decision was taken. -/
structure RunSummary where
  written : Nat
  overwritten : Nat
  unchanged : Nat
  guarded : Nat
  declined : Nat
  deriving DecidableEq, Repr, Inhabited

namespace RunSummary

def ofDecisions (ds : List Decision) : RunSummary :=
  ⟨ds.count .written, ds.count .overwritten, ds.count .unchanged, ds.count .guarded, ds.count .declined⟩

/-- The number of files whose bytes changed. -/
def changed (s : RunSummary) : Nat := s.written + s.overwritten

def text (s : RunSummary) : String :=
  s!"{s.written} written, {s.overwritten} overwritten, {s.unchanged} unchanged, {s.guarded} protected, {s.declined} declined"

end RunSummary

end ApiScaffold
