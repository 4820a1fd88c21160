import BuildTriage.Cli.Run

/-!
# The program

Arguments, files and variables are read here and handed to the run, and what comes of it is printed.
-/

namespace BuildTriage

/-- Opens a path. -/
def openPath (path : String) : IO Opened := do
  try
    let bytes ← IO.FS.readBinFile path
    return .file bytes.toList
  catch
  | .noFileOrDirectory .. => return .failed .notFound
  | .inappropriateType .. => return .directory
  | .invalidArgument .. => return .failed .nameTooLong
  | _ => return .failed .notDirectory

/-- The surroundings as far as the program may look at them. -/
def lookAround (args : List String) : IO Surroundings := do
  let home ← IO.getEnv "HOME"
  let configPath := home.map (· ++ "/.buildsift/config.toml")
  let named := ((Invocation.parse? args).map Invocation.paths).getD []
  let seen ← (named ++ configPath.toList).mapM fun path => do return (path, ← openPath path)
  return {
    opened := fun path => (seen.lookup path).getD (.failed .notFound)
    configPath := configPath
    filterVariable := ← IO.getEnv "RUST_LOG" }

end BuildTriage

open BuildTriage

def main (args : List String) : IO UInt32 := do
  let e := ending args (← lookAround args)
  e.diagnostics.forM IO.eprintln
  IO.print e.output
  return e.code
