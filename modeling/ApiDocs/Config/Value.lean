import ApiDocs.Dict
import ApiDocs.Numeric.Extended
import ApiDocs.Text.Quoted

/-!
# Configuration values

The values that sources give to settings. Tables from different sources are merged key by key; of
any other two values under one key the later one counts.
-/

namespace ApiDocs.Config

inductive Value where
  | text (s : String)
  | truth (b : Bool)
  | signed (n : Int)
  | unsigned (n : Nat)
  | real (x : Extended)
  | sequence (items : List Value)
  | table (entries : List (String × Value))

abbrev Entries :=
  List (String × Value)

namespace Value

def description : Value → String
  | text s => "string " ++ Text.quoted s
  | truth b => s!"bool {b}"
  | signed n => s!"signed int `{n}`"
  | unsigned n => s!"unsigned int `{n}`"
  | real x => s!"float `{x.text}`"
  | sequence _ => "sequence"
  | table _ => "map"

mutual

/-- The value that counts where an earlier and a later source give one. -/
def overlay : Value → Value → Value
  | table below, table above => table (overlayEntries below above)
  | _, above => above

def overlayEntries : Entries → Entries → Entries
  | below, [] => below
  | below, (key, value) :: rest =>
    let merged :=
      match Dict.get? key below with
      | some old => overlay old value
      | none => value
    overlayEntries (Dict.insert key merged below) rest

end

/-- The value at the end of a path of keys. The items of a sequence have their positions as keys. -/
def at? : List String → Value → Option Value
  | [], value => some value
  | key :: path, table entries => (Dict.get? key entries).bind (at? path)
  | key :: path, sequence items => key.toNat?.bind fun index => items[index]?.bind (at? path)
  | _ :: _, _ => none

/-- The value inside tables with single entries, named by a path. -/
def nested : List String → Value → Value
  | [], value => value
  | key :: path, value => table [(key, nested path value)]

end Value

end ApiDocs.Config
