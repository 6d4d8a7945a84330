import BraceLint.Command.Run

/-!
The command line. Paths are followed and files are read before the run, and files whose text changed
are written back after it; the run itself touches nothing outside.
-/

namespace BraceLint.Command

/-- The names on the way to an absolute path. -/
def namesOfPath (path : String) : Names :=
  (path.splitOn "/").filter fun name => name != ""

/-- The absolute path with the given names. -/
def pathOfNames (names : Names) : String :=
  "/" ++ String.intercalate "/" names

/-- The fault behind an error of the system. -/
def faultOfError : IO.Error → FileFault
  | .noFileOrDirectory .. => .notFound
  | .inappropriateType .. => .notDirectory
  | .permissionDenied .. => .denied
  | error => .system (toString error)

/-- Where a path leads, and what is there. -/
def load (path : String) : IO (Except FileFault (Names × Contents)) := do
  try
    let real ← IO.FS.realPath path
    discard real.metadata
    let contents ←
      if ← real.isDir then pure .directory
      else Contents.ofBytes <$> IO.FS.readBinFile real
    return .ok (namesOfPath real.toString, contents)
  catch error => return .error (faultOfError error)

/-- Why a file cannot be written, if it cannot. Opening a file at its end leaves it as it is. -/
def lockOf (names : Names) : IO (Option FileFault) := do
  try
    discard (IO.FS.Handle.mk (pathOfNames names) .append)
    return none
  catch error => return some (faultOfError error)

/-- What the given paths lead to, as a store. Whether files can be written matters only if they are to
be fixed. -/
def loadStore (paths : List String) (fix : Bool) : IO Store := do
  let loaded ← paths.mapM fun path => do return (path, ← load path)
  let files := loaded.filterMap fun entry => entry.2.toOption
  let locks ← files.mapM fun entry => do
    return (entry.1, ← if fix then lockOf entry.1 else pure none)
  return {
    resolve := fun path => ((loaded.lookup path).getD (.error .notFound)).map Prod.fst
    files := files
    locked := fun names => (locks.lookup names).join }

/-- Writes the files of a store that differ from those of an earlier one. -/
def saveChanges (before after : Store) : IO Unit :=
  after.files.forM fun entry => do
    match entry.2 with
    | .text text =>
      if before.contents? entry.1 ≠ some entry.2 then
        IO.FS.writeFile (pathOfNames entry.1) (String.ofList text)
    | _ => return ()

end BraceLint.Command

open BraceLint BraceLint.Command

/-- Runs the command. -/
def main (arguments : List String) : IO UInt32 := do
  let (paths, fix) :=
    match Request.ofArguments arguments with
    | .lint options => (options.files, options.fix)
    | _ => ([], false)
  let before ← loadStore paths fix
  let (after, outcome) := run programParser before arguments
  saveChanges before after
  IO.print outcome.standardOutput
  IO.eprint (outcome.standardError false)
  return outcome.exitCode.toUInt32
