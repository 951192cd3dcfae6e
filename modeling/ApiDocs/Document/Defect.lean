import ApiDocs.Record.Kind

/-!
# Defects of documents

What is wrong with the structure of a document. A defect is noted in the record it belongs to and
stops nothing.
-/

namespace ApiDocs

/-- A place where a document does not follow the conventions. -/
inductive Defect where
  | missingDeclaration
  | unparsableHeading (collection : Collection) (heading : String)
  | unparsableParameter (member text : String)
  | missingType (member parameter : String)
  | unparsablePossibleValue (member parameter text : String)
  | undocumentedParameters (member signature : String)
deriving DecidableEq, Repr

def Defect.message : Defect → String
  | missingDeclaration => "missing module or class declaration heading"
  | unparsableHeading collection heading =>
    s!"unable to parse {collection.key} heading '{heading}'"
  | unparsableParameter member text => s!"unable to parse parameter of {member}: '{text}'"
  | missingType member parameter => s!"parameter '{parameter}' of {member} has no type"
  | unparsablePossibleValue member parameter text =>
    s!"unable to parse possible value of {member}.{parameter}: '{text}'"
  | undocumentedParameters member signature =>
    s!"{member}{signature} is missing parameter docs"

end ApiDocs
