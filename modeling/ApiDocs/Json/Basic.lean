import ApiDocs.Dict
import ApiDocs.Numeric.Binary64

/-!
# JSON values

A number is an integer when it is written as one and fits 64 bits, signed or unsigned, and a binary
floating point number otherwise. An object is a list of entries in the order in which they are
written; `Json.sorted` puts them in the order of their keys.
-/

namespace ApiDocs

inductive Json where
  | null
  | bool (b : Bool)
  | integer (n : Int)
  | real (x : Binary64)
  | string (s : String)
  | array (items : List Json)
  | object (entries : List (String × Json))
deriving Inhabited, Repr

namespace Json

mutual

/-- The value with the entries of every object in the order of their keys. -/
def sorted : Json → Json
  | array items => array (sortedItems items)
  | object entries => object (Dict.ofList (sortedEntries entries))
  | value => value

def sortedItems : List Json → List Json
  | [] => []
  | item :: rest => item.sorted :: sortedItems rest

def sortedEntries : List (String × Json) → List (String × Json)
  | [] => []
  | (key, value) :: rest => (key, value.sorted) :: sortedEntries rest

end

/-- The value of a number as a ratio with a sign, the same for `1` and `1.0`. -/
def numeral? : Json → Option (Int × Nat)
  | integer n => some (n, 1)
  | real x =>
    let (num, den) := x.ratio
    some (if x.negative then -num else num, den)
  | _ => none

def sameNumeral (a b : Int × Nat) : Bool :=
  a.1 * b.2 == b.1 * a.2

mutual

/-- Equality of values, under which numbers count by value and objects by the entries in their
order. -/
def same : Json → Json → Bool
  | null, null => true
  | bool a, bool b => a == b
  | string a, string b => a == b
  | array as, array bs => sameItems as bs
  | object as, object bs => sameEntries as bs
  | a, b =>
    match a.numeral?, b.numeral? with
    | some m, some n => sameNumeral m n
    | _, _ => false

def sameItems : List Json → List Json → Bool
  | [], [] => true
  | a :: as, b :: bs => a.same b && sameItems as bs
  | _, _ => false

def sameEntries : List (String × Json) → List (String × Json) → Bool
  | [], [] => true
  | (k, a) :: as, (l, b) :: bs => k == l && a.same b && sameEntries as bs
  | _, _ => false

end

def allDistinct : List Json → Bool
  | [] => true
  | a :: rest => rest.all (fun b => !a.same b) && allDistinct rest

def get? (key : String) : Json → Option Json
  | object entries => Dict.get? key entries
  | _ => none

end Json

end ApiDocs
