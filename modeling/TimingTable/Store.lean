/-!
# Stores

A `Store` is a tree of files and directories, and the directory in which a run works. There are no links and
no permissions, there is space for everything, and only the run itself changes anything. A place in the
tree is the list of names that leads to it from the top. The top is always a directory; everything else is
there only if the store has an entry for it.

`Store.put` puts a node at a place and leaves all others alone (`node?_put_self`,
`node?_put_of_ne`).
-/

namespace TimingTable

/-- A place in the tree: the names that lead to it from the top. -/
abbrev Place := List String

inductive Node
  | file (content : ByteArray)
  | directory

/-- Files and directories, and the directory in which a run works. -/
structure Store where
  home : Place
  entries : List (Place × Node)

namespace Store
variable {s : Store} {p q : Place} {n : Node}

def node? (s : Store) (p : Place) : Option Node :=
  if p = [] then some .directory else s.entries.lookup p

/-- The entries with a node at a place, in the position of the old entry if there is one. -/
def putEntry (p : Place) (n : Node) : List (Place × Node) → List (Place × Node)
  | [] => [(p, n)]
  | e :: es => if e.1 = p then (p, n) :: es else e :: putEntry p n es

def put (s : Store) (p : Place) (n : Node) : Store := { s with entries := putEntry p n s.entries }

/-- The store without a place and all that is below it. -/
def drop (s : Store) (p : Place) : Store :=
  { s with entries := s.entries.filter fun e => !p.isPrefixOf e.1 }

/-- The store with a directory at each place on the way down to `p` and at `p`, where there is
nothing yet. -/
def putDirectories (s : Store) (p : Place) : Store :=
  let ways := (List.range (p.length + 1)).map p.take
  ways.foldl (fun s q => if (s.node? q).isSome then s else s.put q .directory) s

theorem lookup_putEntry_self (es : List (Place × Node)) : (putEntry p n es).lookup p = some n := by
  induction es with
  | nil => simp [putEntry]
  | cons e es ih =>
    rw [putEntry]
    split
    · simp
    · next h => rw [List.lookup_cons, beq_false_of_ne (Ne.symm h)]; exact ih

theorem lookup_putEntry_of_ne (h : q ≠ p) (es : List (Place × Node)) :
    (putEntry p n es).lookup q = es.lookup q := by
  induction es with
  | nil => simp [putEntry, h]
  | cons e es ih =>
    rw [putEntry]
    split
    · next he => rw [List.lookup_cons, List.lookup_cons, he, beq_false_of_ne h]
    · rw [List.lookup_cons, List.lookup_cons, ih]

theorem node?_put_self (h : p ≠ []) : (s.put p n).node? p = some n := by
  simp [node?, put, h, lookup_putEntry_self]

theorem node?_put_of_ne (h : q ≠ p) : (s.put p n).node? q = s.node? q := by
  simp [node?, put, lookup_putEntry_of_ne h]

end Store

end TimingTable
