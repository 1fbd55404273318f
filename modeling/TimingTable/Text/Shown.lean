/-!
# Shown values

The form in which structures stand in messages: the name, and between braces each field with its
value.
-/

namespace TimingTable.Text

def shownStructure (name : String) (fields : List (String × String)) : String :=
  let inner := ", ".intercalate (fields.map fun f => f.1 ++ ": " ++ f.2)
  name ++ " \x7b " ++ inner ++ " \x7d"

def shownList (items : List String) : String := "[" ++ ", ".intercalate items ++ "]"

end TimingTable.Text
