import TimingTable.Command

/-!
# The command line

`main` takes a picture of the files that a command can look at, runs the command on it, and carries
out what the command did: it writes the summary if there is a new one, and prints. The argument
`summary` chooses the command that writes a summary.
-/

namespace TimingTable

def Place.path (p : Place) : String := "/" ++ "/".intercalate p

/-- The variables in a block in which each one has a NUL after it. -/
def Environment.ofBlock (block : String) : Environment :=
  (block.toList.splitOn '\x00').filterMap fun entry =>
    if '=' ∈ entry then
      some (String.ofList (entry.takeWhile (· ≠ '=')),
        String.ofList ((entry.dropWhile (· ≠ '=')).drop 1))
    else none

def probe (path : String) : IO (Option Node) := do
  let here := (← IO.currentDir) / path
  if ← here.isDir then return some .directory
  try
    return some (.file (← IO.FS.readBinFile here))
  catch _ => return none

/-- The store with what the machine has at the places that some paths lead through. -/
def observe (s : Store) (paths : List String) : IO Store :=
  (paths.flatMap s.visited).foldlM (fun s p => do
    match ← probe p.path with
    | some n => return s.put p n
    | none => return s) s

def carryOut (before after : Store) : IO Unit :=
  after.entries.forM fun (p, n) =>
    match n with
    | .directory => pure ()
    | .file content =>
      match before.node? p with
      | some (.file old) =>
        if old.toList = content.toList then pure () else IO.FS.writeBinFile p.path content
      | _ => IO.FS.writeBinFile p.path content

def environment : IO Environment := do
  try
    let block ← IO.FS.readBinFile "/proc/self/environ"
    return .ofBlock ((String.fromUTF8? block).getD "")
  catch _ => return []

end TimingTable

open TimingTable in
def main (args : List String) : IO UInt32 := do
  let home := Path.namesOf (← IO.currentDir).toString
  let env ← environment
  let empty : Store := (⟨home, []⟩ : Store).putDirectories home
  let withSettings ← observe empty Settings.usualFiles
  let paths := match Settings.load withSettings env with
    | .ok settings => [settings.inputPath, settings.summaryPath]
    | .error _ => []
  let store ← observe withSettings paths
  let command := if args.head? = some "summary" then Command.summary else Command.output
  let outcome := command.run env store
  carryOut store outcome.store
  IO.print outcome.stdout
  IO.eprint outcome.stderr
  return outcome.exitCode.toUInt32
