import TimingTable.Data.Yaml.Scan
import TimingTable.Data.Yaml.Tree

/-!
# Reading YAML

`Yaml.read?` reads a text with at most one document, whose root must be a mapping. The text is cut
into tokens, these make up a node, and the node is data.
-/

namespace TimingTable.Yaml

/-- The entries of the mapping that a text is; a text without a document has none. -/
def read? (text : String) : Option (List (String × Data)) := do
  match ← Node.ofTokens? (← tokens? text) with
  | none => some []
  | some root =>
    match ← root.toData? with
    | .object entries => some entries
    | _ => none

end TimingTable.Yaml
