import StartEnd.CommandLine.Run

/-!
This module contains the program itself: it reads the files that the arguments name and prints the
result of the run.
-/

namespace StartEnd.CommandLine

def FileError.ofIO : IO.Error → FileError
  | .noFileOrDirectory .. => .missing
  | .permissionDenied .. => .denied
  | .inappropriateType .. => .directory
  | e => .system 5 "Uncategorized" (toString e)

def readFile (path : String) : IO FileContent := do
  try
    return .ok (← IO.FS.readBinFile path)
  catch e =>
    return .error (.ofIO e)

def readInput : IO FileContent := do
  return .ok (← (← IO.getStdin).readBinToEnd)

def runIO (args : List String) : IO Result := do
  match read args with
  | none => return .usageError
  | some .version => return .version
  | some (.run o) =>
    let source ← match o.file with
      | some path => readFile path
      | none => readInput
    let table ← o.grammar.mapM readFile
    return run o source table

end StartEnd.CommandLine

def main (args : List String) : IO UInt32 := do
  let result ← StartEnd.CommandLine.runIO args
  (← IO.getStdout).putStr result.output
  (← IO.getStderr).putStr result.errors
  return .ofNat result.code
