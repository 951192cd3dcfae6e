/-!
# Verdicts

What is checked has a name and a list of errors. It passes when there are none, and its report is
its name with a mark and a line for each error.
-/

namespace ApiDocs

/-- The line of what passed: its name after a check mark. -/
def passedLine (name : String) : String :=
  "✓ " ++ name

/-- The lines of what failed: its name after a cross, then each error. -/
def failedLines (name : String) (errors : List String) : String :=
  String.join (("✘ " ++ name) :: errors.map ("\n  - " ++ ·))

def report (name : String) (errors : List String) : String :=
  if errors.isEmpty then passedLine name else failedLines name errors

end ApiDocs
