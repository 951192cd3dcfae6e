/-!
# Environments

The variables that a run sees, in the order in which they were set.
-/

namespace ApiDocs

/-- The names and values of variables. -/
abbrev Environment :=
  List (String × String)

namespace Environment

def get? (environment : Environment) (name : String) : Option String :=
  environment.lookup name

def setDefault (environment : Environment) (name value : String) : Environment :=
  match environment.get? name with
  | some _ => environment
  | none => environment ++ [(name, value)]

end Environment

end ApiDocs
