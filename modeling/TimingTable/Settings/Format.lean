import TimingTable.Data.Ini
import TimingTable.Data.Json
import TimingTable.Data.Json5
import TimingTable.Data.Ron
import TimingTable.Data.Toml
import TimingTable.Data.Yaml

/-!
# Formats of settings files

A settings file is in one of six formats, which its extension tells. Its top level must be a table.
`Formats` is what a run does not fix about them.
-/

namespace TimingTable

inductive Format
  | toml
  | json
  | yaml
  | ini
  | ron
  | json5
deriving DecidableEq, Repr

namespace Format

def all : List Format := [toml, json, yaml, ini, ron, json5]

/-- The extensions of a format, in the order in which they are tried. -/
def extensions : Format → List String
  | toml => ["toml"]
  | json => ["json"]
  | yaml => ["yaml", "yml"]
  | ini => ["ini"]
  | ron => ["ron"]
  | json5 => ["json5"]

/-- The format with an extension. -/
def ofExtension? (extension : String) : Option Format := all.find? (extension ∈ ·.extensions)

theorem mem_all (f : Format) : f ∈ all := by
  cases f <;> decide

/-- No extension belongs to two formats. -/
theorem ofExtension?_eq_some_iff {extension : String} {f : Format} :
    ofExtension? extension = some f ↔ extension ∈ f.extensions := by
  constructor
  · intro h
    have hmem := List.find?_some h
    exact of_decide_eq_true hmem
  · have hall : ∀ f ∈ all, ∀ e ∈ f.extensions, ofExtension? e = some f := by decide
    exact hall f f.mem_all extension

def read? : Format → String → Option (List (String × Data))
  | toml, text => Toml.read? text
  | json, text => (Json.read? text).bind Data.entries?
  | yaml, text => Yaml.read? text
  | ini, text => Ini.read? text
  | ron, text => (Ron.read? text).bind Data.entries?
  | json5, text => (Json5.read? text).bind Data.entries?

end Format

/-- What is left open about the formats: the order in which they are tried beside a path, which nothing
fixes, and the words in which a text is refused that is none of a format. -/
class Formats where
  order : List Format
  perm : order.Perm Format.all
  /-- What is said about a file with a text. -/
  refusal : Format → (file text : String) → String

/-- Which format an extension tells does not depend on the order. -/
theorem Formats.find?_order [Formats] (extension : String) :
    order.find? (extension ∈ ·.extensions) = Format.ofExtension? extension := by
  cases h : order.find? (extension ∈ ·.extensions) with
  | none =>
    refine (List.find?_eq_none.2 fun f _ => ?_).symm
    exact List.find?_eq_none.1 h f (perm.mem_iff.2 f.mem_all)
  | some f =>
    have hmem := List.find?_some h
    exact (Format.ofExtension?_eq_some_iff.2 (of_decide_eq_true hmem)).symm

/-- The formats in the order of their list, with the same words for every refusal. -/
instance Formats.listed : Formats := ⟨Format.all, .refl _, fun _ _ _ => "malformed configuration"⟩

end TimingTable
