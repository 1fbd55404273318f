import TimingTable.Data
import TimingTable.Row
import TimingTable.Text.Quoted

/-!
# Decoding structures

A structure with named fields is read from an object, or from an array that has the fields in the
order of their declaration. In an object other keys are ignored; the first field in alphabetical
order with a wrong value is the error, and after that the first field in declaration order that is
missing. In an array the items are read in order, and its length is wrong only where the items that
it does have are right. `Row.toData` writes a row as an object, and decoding gives it back.
-/

namespace TimingTable
open Text

/-- What a decoder asks for. -/
inductive Expected
  | text
  | path
  | sequence
  | structure (name : String)
deriving DecidableEq, Repr

/-- Why a value is not what a decoder asks for. -/
inductive DecodeError
  | wrongType (found : Data) (expected : Expected)
  | missingField (name : String)
  | tooFewItems (count : Nat) (name : String) (fields : Nat)
  | tooManyItems (count : Nat)

def Expected.wording : Expected → String
  | text => "a string"
  | path => "path string"
  | sequence => "a sequence"
  | .structure name => "struct " ++ name

/-- How an error message names a value: a scalar with its value, a composite one by its kind. -/
def Data.described : Data → String
  | null => "null"
  | bool b => "boolean `" ++ (if b then "true" else "false") ++ "`"
  | int n => "integer `" ++ toString n ++ "`"
  | float x => "floating point `" ++ Decimal.Layout.data.text x ++ "`"
  | string s => "string " ++ quoted s
  | array _ => "sequence"
  | object _ => "map"

def DecodeError.message : DecodeError → String
  | wrongType found expected =>
    "invalid type: " ++ found.described ++ ", expected " ++ expected.wording
  | missingField name => "missing field `" ++ name ++ "`"
  | tooFewItems count name fields =>
    "invalid length " ++ toString count ++ ", expected struct " ++ name ++ " with " ++
      toString fields ++ (if fields = 1 then " element" else " elements")
  | tooManyItems count =>
    "invalid length " ++ toString count ++ ", expected fewer elements in array"

/-- A decoder of `α`. -/
abbrev Decoder (α : Type) := Data → Except DecodeError α

namespace Decoder
variable {α : Type}

/-- Accepts a string. -/
def string (expected : Expected) : Decoder String
  | .string s => .ok s
  | v => .error (.wrongType v expected)

/-- Accepts an array whose items a decoder accepts. -/
def list (item : Decoder α) : Decoder (List α)
  | .array vs => vs.mapM item
  | v => .error (.wrongType v .sequence)

structure Field (α : Type) where
  name : String
  decode : Decoder α

/-- Reads the fields of an object with the given fields, in declaration order. -/
def present (entries : List (String × Data)) : List (Field α) → Except DecodeError (List α)
  | [] => .ok []
  | f :: fs =>
    match entries.lookup f.name with
    | none => .error (.missingField f.name)
    | some v => do return (← f.decode v) :: (← present entries fs)

/-- Puts a field in front of the first one whose name is not less. -/
def insertByName (f : Field α) : List (Field α) → List (Field α)
  | [] => [f]
  | g :: gs => if f.name ≤ g.name then f :: g :: gs else g :: insertByName f gs

/-- Fields in alphabetical order. -/
def byName (fields : List (Field α)) : List (Field α) := fields.foldr insertByName []

/-- Checks the values of those fields that are there, in the given order. -/
def check (entries : List (String × Data)) : List (Field α) → Except DecodeError Unit
  | [] => .ok ()
  | f :: fs =>
    match entries.lookup f.name with
    | none => check entries fs
    | some v => do
      let _ ← f.decode v
      check entries fs

/-- Reads the fields from the items of an array, in declaration order. -/
def inOrder (tooFew tooMany : DecodeError) :
    List (Field α) → List Data → Except DecodeError (List α)
  | [], [] => .ok []
  | [], _ :: _ => .error tooMany
  | _ :: _, [] => .error tooFew
  | f :: fs, v :: vs => do return (← f.decode v) :: (← inOrder tooFew tooMany fs vs)

/-- Accepts a structure and gives the values of its fields in declaration order. -/
def structured (name : String) (fs : List (Field α)) : Decoder (List α)
  | .object entries => do
    check entries (byName fs)
    present entries fs
  | .array vs => inOrder (.tooFewItems vs.length name fs.length) (.tooManyItems vs.length) fs vs
  | v => .error (.wrongType v (.structure name))

end Decoder

open Decoder

def Row.decode : Decoder Row := fun v => do
  match Row.ofFields? (← structured "BenchRecord" (Row.columns.map (⟨·, string .text⟩)) v) with
  | some row => .ok row
  | none => .error (.wrongType v (.structure "BenchRecord"))

/-- Accepts a table: a structure whose only field has its rows. -/
def decodeRows : Decoder (List Row) := fun v => do
  return (← structured "ParseResult" [⟨"records", list Row.decode⟩] v).flatten

def Row.toData (r : Row) : Data :=
  .object (Row.columns.zip (r.fields.map .string))

def rowsToData (rows : List Row) : Data :=
  .object [("records", .array (rows.map Row.toData))]

end TimingTable
