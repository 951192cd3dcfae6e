/-!
# Arguments

A run is given a path and options. An option with a value takes it behind an equals sign or from the
next argument; letters behind one hyphen are flags; behind two hyphens alone only paths follow.
Nothing is given twice, and the two files exclude each other.
-/

namespace ApiDocs.CommandLine

/-- What takes a value. -/
inductive Parameter where
  | path
  | version
  | outfile
  | infile
  | config
deriving DecidableEq, Repr

/-- What is given or not. -/
inductive Flag where
  | quiet
  | verbose
  | help
deriving DecidableEq, Repr

def Parameter.usage : Parameter → String
  | path => "<PATH>"
  | version => "--version <VERSION>"
  | outfile => "--outfile <FILE>"
  | infile => "--infile <FILE>"
  | config => "--config <FILE>"

def Parameter.allowsEmpty : Parameter → Bool
  | version => true
  | _ => false

def Flag.usage : Flag → String
  | quiet => "--quiet"
  | verbose => "--verbose"
  | help => "--help"

def named? : String → Option (Parameter ⊕ Flag)
  | "version" => some (.inl .version)
  | "outfile" => some (.inl .outfile)
  | "infile" => some (.inl .infile)
  | "config" => some (.inl .config)
  | "quiet" => some (.inr .quiet)
  | "verbose" => some (.inr .verbose)
  | "help" => some (.inr .help)
  | _ => none

def lettered? : Char → Option Flag
  | 'q' => some .quiet
  | 'v' => some .verbose
  | 'h' => some .help
  | _ => none

inductive UsageError where
  | unexpectedArgument (argument : String)
  | unexpectedValue (value : String) (flag : Flag)
  | valueRequired (parameter : Parameter)
  | repeated (usage : String)
  | conflict (first second : Parameter)
  | pathRequired
deriving DecidableEq, Repr

/-- The wording of an error, without the lines on usage. -/
def UsageError.message : UsageError → String
  | unexpectedArgument argument => s!"unexpected argument '{argument}' found"
  | unexpectedValue value flag =>
    s!"unexpected value '{value}' for '{flag.usage}' found; no more were expected"
  | valueRequired parameter =>
    s!"a value is required for '{parameter.usage}' but none was supplied"
  | repeated usage => s!"the argument '{usage}' cannot be used multiple times"
  | conflict first second =>
    s!"the argument '{first.usage}' cannot be used with '{second.usage}'"
  | pathRequired =>
    s!"the following required arguments were not provided:\n  {Parameter.usage .path}"

/-- Why arguments do not start a run. -/
inductive Stop where
  | help
  | usage (error : UsageError)
deriving DecidableEq, Repr

/-- What the arguments so far give: values and flags in their order, and the parameter that comes
next with its value, unless that is still to come. -/
structure Scan where
  values : List (Parameter × String)
  flags : List Flag
  open? : Option (Parameter × Option String)
deriving DecidableEq, Repr

namespace Scan

def empty : Scan :=
  ⟨[], [], none⟩

def give (scan : Scan) (parameter : Parameter) (value : String) : Except Stop Scan :=
  if scan.values.any fun (given, _) => given == parameter then
    .error (.usage (.repeated parameter.usage))
  else if value = "" ∧ !parameter.allowsEmpty then .error (.usage (.valueRequired parameter))
  else .ok { scan with values := scan.values ++ [(parameter, value)] }

/-- Gives the open parameter its value. -/
def settle (scan : Scan) : Except Stop Scan :=
  match scan.open? with
  | none => .ok scan
  | some (parameter, some value) => { scan with open? := none }.give parameter value
  | some (parameter, none) => .error (.usage (.valueRequired parameter))

def raise (scan : Scan) (flag : Flag) : Except Stop Scan := do
  let scan ← scan.settle
  if flag = .help then throw .help
  if flag ∈ scan.flags then throw (.usage (.repeated flag.usage))
  return { scan with flags := scan.flags ++ [flag] }

def raiseAll (scan : Scan) : List Char → Except Stop Scan
  | [] => .ok scan
  | c :: rest =>
    match lettered? c with
    | some flag => do (← scan.raise flag).raiseAll rest
    | none => .error (.usage (.unexpectedArgument (String.ofList ['-', c])))

def long (scan : Scan) (name : String) (value : Option String) : Except Stop Scan :=
  match named? name, value with
  | some (.inl parameter), some value => do (← scan.settle).give parameter value
  | some (.inl parameter), none => do
    return { (← scan.settle) with open? := some (parameter, none) }
  | some (.inr flag), some value => .error (.usage (.unexpectedValue value flag))
  | some (.inr flag), none => scan.raise flag
  | none, _ => .error (.usage (.unexpectedArgument ("--" ++ name)))

def hasPath (scan : Scan) : Bool :=
  (scan.values.any fun (given, _) => given == .path) ||
    (scan.open?.any fun (given, _) => given == .path)

def positional (scan : Scan) (argument : String) : Except Stop Scan := do
  let settled ← scan.settle
  if scan.hasPath then throw (.usage (.unexpectedArgument argument))
  return { settled with open? := some (.path, some argument) }

/-- Takes an argument that is no option: the value that is still to come, or a path. -/
def plain (scan : Scan) (argument : String) : Except Stop Scan :=
  match scan.open? with
  | some (parameter, none) => .ok { scan with open? := some (parameter, some argument) }
  | _ => scan.positional argument

/-- Takes an argument in front of two hyphens alone. -/
def take (scan : Scan) (argument : String) : Except Stop Scan :=
  match argument.toList with
  | '-' :: '-' :: rest =>
    let name := String.ofList (rest.takeWhile (· != '='))
    match rest.dropWhile (· != '=') with
    | _ :: value => scan.long name (some (String.ofList value))
    | [] => scan.long name none
  | '-' :: c :: rest => scan.raiseAll (c :: rest)
  | _ => scan.plain argument

def takeAll (scan : Scan) : List String → Except Stop Scan
  | [] => scan.settle
  | "--" :: paths => do (← paths.foldlM positional scan).settle
  | argument :: rest => do (← scan.take argument).takeAll rest

def value? (scan : Scan) (parameter : Parameter) : Option String :=
  scan.values.lookup parameter

end Scan

structure Arguments where
  path : String
  version : Option String
  outfile : Option String
  infile : Option String
  config : Option String
  quiet : Bool
  verbose : Bool
deriving DecidableEq, Repr

/-- The two files that exclude each other, when both are given, in their order. -/
def Scan.conflict? (scan : Scan) : Option UsageError :=
  match (scan.values.map Prod.fst).filter (· ∈ [.outfile, .infile]) with
  | [first, second] => some (.conflict first second)
  | _ => none

def Scan.finish (scan : Scan) : Except Stop Arguments :=
  match scan.conflict?, scan.value? .path with
  | some error, _ => .error (.usage error)
  | none, none => .error (.usage .pathRequired)
  | none, some path =>
    .ok {
      path
      version := scan.value? .version
      outfile := scan.value? .outfile
      infile := scan.value? .infile
      config := scan.value? .config
      quiet := scan.flags.contains .quiet
      verbose := scan.flags.contains .verbose }

/-- The arguments that words write. -/
def Arguments.ofWords (words : List String) : Except Stop Arguments := do
  (← Scan.empty.takeAll words).finish

end ApiDocs.CommandLine
