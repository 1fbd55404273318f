import TimingTable.Decimal.Shortest

/-!
# Data values

What a data format such as JSON or TOML can hold. The entries of an object keep the order in which
they were read, and readers put no key into an object twice.
-/

namespace TimingTable

inductive Data
  | null
  | bool (value : Bool)
  | int (value : Int)
  | float (value : Binary64)
  | string (value : String)
  | array (items : List Data)
  | object (entries : List (String × Data))
deriving Repr, Inhabited

namespace Data

/-- The entries with one more, which takes the place of an entry with the same key. -/
def put (entries : List (String × Data)) (key : String) (value : Data) : List (String × Data) :=
  if entries.any (·.1 == key) then
    entries.map fun e => if e.1 == key then (key, value) else e
  else entries ++ [(key, value)]

/-- The entries of an object. -/
def entries? : Data → Option (List (String × Data))
  | object entries => some entries
  | _ => none

end Data

end TimingTable
