import StoreGuard.CommandLine.Run

open StoreGuard

/-- Why the system refuses a file. -/
def fileFault : IO.Error → FileFault
  | .noFileOrDirectory .. => .missing
  | .permissionDenied _ code details => .other (details ++ " (os error " ++ toString code ++ ")")
  | .inappropriateType _ code details => .other (details ++ " (os error " ++ toString code ++ ")")
  | e => .other (toString e)

def readFile (path : String) : IO FileContents := do
  try
    return .ok (← IO.FS.readBinFile path)
  catch e =>
    return .error (fileFault e)

def namedFiles (args : List String) : List String :=
  match CommandLine.Invocation.ofArguments args with
  | .error _ => []
  | .ok i => i.config.toList ++
    match i.task with
    | .value _ (.file path) => [path]
    | _ => []

def main (args : List String) : IO UInt32 := do
  let contents ← (namedFiles args).mapM fun path => return (path, ← readFile path)
  let files path := (contents.lookup path).getD (.error .missing)
  let stdout ← IO.getStdout
  let colour := CommandLine.wantsColour (← IO.getEnv "CLICOLOR_FORCE") (← IO.getEnv "NO_COLOR")
    (← IO.getEnv "CLICOLOR") (← stdout.isTty)
  let ending := CommandLine.run files args
  stdout.putStr (ending.stdout colour)
  (← IO.getStderr).putStr ending.stderr
  return ending.exitCode
