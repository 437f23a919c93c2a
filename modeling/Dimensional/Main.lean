import Dimensional.Catalog.Invocation

/-!
The command line. Answers go to standard output, errors to standard error; the exit code is one when
a call fails and two when its arguments are not understood.
-/

set_option autoImplicit false

namespace Dimensional.Catalog

/-- The variables of the process; none where the system does not show them as a file. -/
def processEnvironment : IO (List (String × String)) := do
  try
    let bytes ← IO.FS.readBinFile "/proc/self/environ"
    return ((String.fromUTF8? bytes).map Environment.ofText).getD []
  catch _ => return []

/-- The file of a path, without content if it cannot be read. -/
def readCatalogFile (path : String) : IO CatalogFile := do
  try return ⟨path, some (← IO.FS.readFile path)⟩
  catch _ => return ⟨path, none⟩

def runInvocation (invocation : Invocation) : IO UInt32 := do
  let file ← invocation.path.mapM readCatalogFile
  match invocation.answer file (← processEnvironment) with
  | .ok text =>
    (← IO.getStdout).putStr text
    return 0
  | .error error =>
    (← IO.getStderr).putStrLn ("Error: " ++ error.message)
    return 1

end Dimensional.Catalog

open Dimensional.Catalog in
def main (arguments : List String) : IO UInt32 := do
  if arguments.any fun argument => argument == "--help" || argument == "-h" then
    (← IO.getStdout).putStr usage
    return 0
  match Invocation.read arguments with
  | .ok invocation => runInvocation invocation
  | .error error =>
    (← IO.getStderr).putStr ("error: " ++ error.message ++ "\n\n" ++ usage)
    return 2
