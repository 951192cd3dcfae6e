import ApiDocs.Numeric.Extended
import ApiDocs.Toml.Moment

/-!
# Values of a TOML document

The values that a document assigns to its keys. A table holds its entries in the order of their
keys.
-/

namespace ApiDocs.Toml

/-- A value of a TOML document. -/
inductive Value where
  | text (s : String)
  | integer (n : Int)
  | real (x : Extended)
  | truth (b : Bool)
  | moment (m : Moment)
  | array (items : List Value)
  | table (entries : List (String × Value))

abbrev Entries :=
  List (String × Value)

end ApiDocs.Toml
