/-!
# Tokens of YAML

The tokens that a text is cut into. Some of them stand for no character: where a block begins and
ends is known by its column, and that something is a key by the colon after it.
-/

namespace TimingTable.Yaml

inductive Token
  /-- The directive that gives the version of the language. -/
  | version
  /-- A directive by which tags with a handle begin with a stem. -/
  | tagStem (handle stem : String)
  | documentStart
  | documentEnd
  /-- The beginning of a block sequence. -/
  | sequenceStart
  /-- The beginning of a block mapping. -/
  | mappingStart
  /-- The end of a block. -/
  | blockEnd
  | flowSequenceStart
  | flowSequenceEnd
  | flowMappingStart
  | flowMappingEnd
  /-- The dash before an entry of a block sequence. -/
  | dash
  | comma
  /-- What follows is a key. -/
  | key
  /-- What follows is the value of a key. -/
  | value
  | alias (name : String)
  | anchor (name : String)
  | tag (handle suffix : String)
  | scalar (plain : Bool) (text : String)
deriving DecidableEq, Repr

end TimingTable.Yaml
