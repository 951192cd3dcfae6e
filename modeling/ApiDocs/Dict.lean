/-!
# Tables sorted by key

A table is a list of keys and values in the order of the keys, each key once. Strings are ordered by
code points, which is the order of their bytes.
-/

namespace ApiDocs.Dict

variable {α : Type}

/-- Puts a value under a key, in place of the one that stood there. -/
def insert (key : String) (value : α) : List (String × α) → List (String × α)
  | [] => [(key, value)]
  | (k, v) :: rest =>
    if key < k then (key, value) :: (k, v) :: rest
    else if key = k then (key, value) :: rest
    else (k, v) :: insert key value rest

def get? (key : String) (entries : List (String × α)) : Option α :=
  entries.lookup key

/-- The entries of the second list put into the first table, later ones winning. -/
def extend (entries additions : List (String × α)) : List (String × α) :=
  additions.foldl (fun table (key, value) => insert key value table) entries

def ofList (entries : List (String × α)) : List (String × α) :=
  extend [] entries

end ApiDocs.Dict
