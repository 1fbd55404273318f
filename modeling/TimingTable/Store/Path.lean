import TimingTable.Store

/-!
# Paths

A path is a text with names between slashes. It is walked name by name from the top of the tree or
from the working directory: a name can be entered only from a directory that is there, `.` stays and
`..` goes back up. A `Fault` says why a path does not lead to what is asked for.
-/

namespace TimingTable

/-- Why a file cannot be read or written. -/
inductive Fault
  | notFound
  | notDirectory
  | isDirectory
  | nameTooLong
  | innerNul
  | notText
deriving DecidableEq, Repr

def Fault.text : Fault → String
  | notFound => "No such file or directory (os error 2)"
  | notDirectory => "Not a directory (os error 20)"
  | isDirectory => "Is a directory (os error 21)"
  | nameTooLong => "File name too long (os error 36)"
  | innerNul => "file name contained an unexpected NUL byte"
  | notText => "stream did not contain valid UTF-8"

structure Path where
  fromTop : Bool
  names : List String
  endsInSlash : Bool
deriving DecidableEq, Repr

namespace Path

/-- The greatest number of bytes in a name. -/
def maxName : Nat := 255

/-- The greatest number of bytes in a path. -/
def maxLength : Nat := 4095

/-- The names of a text between its slashes. -/
def namesOf (text : String) : List String :=
  ((text.toList.splitOn '/').map String.ofList).filter (· ≠ "")

def read (text : String) : Except Fault Path :=
  if '\x00' ∈ text.toList then .error .innerNul
  else if text = "" then .error .notFound
  else if text.utf8ByteSize > maxLength then .error .nameTooLong
  else .ok ⟨text.toList.head? = some '/', namesOf text, text.toList.getLast? = some '/'⟩

end Path

namespace Store

def enter (s : Store) (dir : Place) (name : String) : Except Fault Place :=
  match s.node? dir with
  | none => .error .notFound
  | some (.file _) => .error .notDirectory
  | some .directory =>
    if name = "." then .ok dir
    else if name = ".." then .ok dir.dropLast
    else if name.utf8ByteSize > Path.maxName then .error .nameTooLong
    else .ok (dir ++ [name])

def start (s : Store) (path : Path) : Place := if path.fromTop then [] else s.home

def walk (s : Store) (dir : Place) (names : List String) : Except Fault Place :=
  names.foldlM s.enter dir

def locate (s : Store) (text : String) : Except Fault (Place × Node) := do
  let path ← Path.read text
  let place ← s.walk (s.start path) path.names
  match s.node? place with
  | none => .error .notFound
  | some (.file content) =>
    if path.endsInSlash then .error .notDirectory else .ok (place, .file content)
  | some .directory => .ok (place, .directory)

/-- The places that a walk along a path can come to. -/
def visited (s : Store) (text : String) : List Place :=
  let start : Place := if text.toList.head? = some '/' then [] else s.home
  let go (p : Place) (name : String) : Place :=
    if name = "." then p else if name = ".." then p.dropLast else p ++ [name]
  ((Path.namesOf text).foldl (fun ps name => go (ps.headD start) name :: ps) [start]).reverse

def exists? (s : Store) (text : String) : Bool := (s.locate text).isOk

def isFile (s : Store) (text : String) : Bool :=
  match s.locate text with
  | .ok (_, .file _) => true
  | _ => false

def readBytes (s : Store) (text : String) : Except Fault ByteArray := do
  match ← s.locate text with
  | (_, .file content) => .ok content
  | (_, .directory) => .error .isDirectory

/-- The text of the file at a path, all of whose bytes must be UTF-8. -/
def readText (s : Store) (text : String) : Except Fault String := do
  match String.fromUTF8? (← s.readBytes text) with
  | some content => .ok content
  | none => .error .notText

/-- The place at which a file with the given path can be written. The last name need not be there,
but the directory above it must be. -/
def target (s : Store) (text : String) : Except Fault Place := do
  let path ← Path.read text
  match path.names.getLast? with
  | none => .error .isDirectory
  | some name =>
    let above ← s.walk (s.start path) path.names.dropLast
    if path.endsInSlash then
      match s.node? above with
      | none => .error .notFound
      | some (.file _) => .error .notDirectory
      | some .directory => .error .isDirectory
    else
      let place ← s.enter above name
      match s.node? place with
      | some .directory => .error .isDirectory
      | _ => .ok place

/-- The store with a file at a path, which replaces a file that was there. -/
def write (s : Store) (text : String) (content : ByteArray) : Except Fault Store := do
  return s.put (← s.target text) (.file content)

end Store

end TimingTable
