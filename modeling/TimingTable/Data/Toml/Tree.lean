import TimingTable.Data

/-!
# Trees of TOML tables

A document is built up statement by statement, and how a table came about decides who may still add
to it. A table that only stands in front of others (`implicit`) may be given a header of its own
later, unless dotted keys made it (`dotted`); dotted keys may add only to tables that dotted keys
made; and what was written as a value is closed. `Tree.atPath` follows a path of names to a table,
makes the tables that are missing, and replaces the table at its end.
-/

namespace TimingTable.Toml

/-- A table or what stands in one; of an array of tables the last one is apart, since statements
can add to that one only. -/
inductive Tree
  | value (v : Data)
  | table (implicit dotted : Bool) (entries : List (String × Tree))
  | tables (earlier : List (List (String × Tree))) (last : List (String × Tree))

namespace Tree

mutual

def toData : Tree → Data
  | value v => v
  | table _ _ es => .object (entriesToData es)
  | tables earlier last => .array (tablesToData earlier ++ [.object (entriesToData last)])

def entriesToData : List (String × Tree) → List (String × Data)
  | [] => []
  | (k, t) :: es => (k, toData t) :: entriesToData es

def tablesToData : List (List (String × Tree)) → List Data
  | [] => []
  | t :: ts => .object (entriesToData t) :: tablesToData ts

end

/-- The entries with another tree for a key. -/
def set (key : String) (t : Tree) : List (String × Tree) → List (String × Tree)
  | [] => [(key, t)]
  | (k, u) :: es => if k = key then (key, t) :: es else (k, u) :: set key t es

/-- Replaces the entries of the table that a path leads to. The tables that are missing on the way
are made with the given mark; `change` is told whether the table at the end is dotted. -/
def atPath (byDots : Bool) (change : Bool → List (String × Tree) → Option (List (String × Tree)))
    (dotted : Bool) : List String → List (String × Tree) → Option (List (String × Tree))
  | [], es => change dotted es
  | key :: path, es =>
    match es.lookup key with
    | none => do return set key (.table true byDots (← atPath byDots change byDots path [])) es
    | some (.value _) => none
    | some (.tables earlier last) => do
      return set key (.tables earlier (← atPath byDots change false path last)) es
    | some (.table implicit d inner) =>
      if byDots && !implicit then none
      else do return set key (.table implicit d (← atPath byDots change d path inner)) es

/-- Adds a value under a dotted key to the entries of a table. -/
def add (path : List String) (key : String) (v : Data) (es : List (String × Tree)) :
    Option (List (String × Tree)) :=
  atPath true (fun dotted es =>
    if dotted = path.isEmpty || (es.lookup key).isSome then none
    else some (es ++ [(key, .value v)])) false path es

/-- Opens the table that a header names. -/
def openTable (path : List String) (key : String) (es : List (String × Tree)) :
    Option (List (String × Tree)) :=
  atPath false (fun _ es =>
    match es.lookup key with
    | none => some (es ++ [(key, .table false false [])])
    | some (.table true false inner) => some (set key (.table false false inner) es)
    | some _ => none) false path es

/-- Opens a further table of the array of tables that a header names. -/
def openItem (path : List String) (key : String) (es : List (String × Tree)) :
    Option (List (String × Tree)) :=
  atPath false (fun _ es =>
    match es.lookup key with
    | none => some (es ++ [(key, .tables [] [])])
    | some (.tables earlier last) => some (set key (.tables (earlier ++ [last]) []) es)
    | some _ => none) false path es

/-- Adds a value under a dotted key to the table that a header opened. -/
def addUnder (header path : List String) (key : String) (v : Data) (es : List (String × Tree)) :
    Option (List (String × Tree)) :=
  atPath false (fun _ es => add path key v es) false header es

end Tree

end TimingTable.Toml
