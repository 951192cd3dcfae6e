import ApiDocs.Record.Kind

/-!
# Members

A member is a method, an event or a property. A parameter is an argument of a method, an entry of an
event's payload, or a property of another parameter.
-/

namespace ApiDocs

structure PossibleValue where
  value : String
  description : String
deriving DecidableEq, Repr

/-- A parameter; whether it is required is said of the arguments of methods only. -/
structure Parameter where
  name : String
  type : String
  description : String
  required : Option Bool
  possibleValues : Option (List PossibleValue)
  properties : Option (List Parameter)
deriving Repr, BEq

/-- A member; what its kind does not have is left out or empty. -/
structure Member where
  name : String
  signature : Option String
  signatureParameters : Option (List String)
  description : String
  platforms : Option (List Platform)
  parameters : List Parameter
  returns : List Parameter
deriving Repr, BEq

/-- The parameter with a name, the first of several. -/
def Parameter.named? (name : String) (parameters : List Parameter) : Option Parameter :=
  parameters.find? fun parameter => parameter.name == name

def Parameter.property? (parameter : Parameter) (name : String) : Option Parameter :=
  parameter.properties.bind (named? name)

def Member.named? (name : String) (members : List Member) : Option Member :=
  members.find? fun member => member.name == name

def Member.signatureNames (member : Member) : List String :=
  member.signatureParameters.getD []

/-- Whether the signature has names and the parameters do not have the same ones in the same
order. -/
def Member.lacksParameterDocs (member : Member) : Bool :=
  !member.signatureNames.isEmpty &&
    member.signatureNames != member.parameters.map (fun parameter => parameter.name)

end ApiDocs
