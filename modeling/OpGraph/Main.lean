import OpGraph.CommandLine.Run

/-!
# The executable

Reads the files that the arguments name, runs the program on their contents, and prints what it
leaves.
-/

namespace OpGraph

/-- The fault behind an error of the system. -/
def FileFault.ofError : IO.Error → FileFault
  | .noFileOrDirectory .. => .notFound
  | .inappropriateType _ code reason =>
    if code = 21 then .isDirectory else if code = 20 then .notDirectory else .other reason
  | e => .other (toString e)

/-- The text of a file of the system. -/
def readTextFile (path : String) : IO (Except FileFault String) := do
  try
    match String.fromUTF8? (← IO.FS.readBinFile path) with
    | some text => return .ok text
    | none => return .error .invalidText
  catch e => return .error (.ofError e)

end OpGraph

def main (arguments : List String) : IO UInt32 := do
  let paths := ((OpGraph.Request.ofArguments? arguments).map OpGraph.Request.files).getD []
  let contents ← paths.mapM fun path => do return (path, ← OpGraph.readTextFile path)
  let files (path : String) := (contents.lookup path).getD (.error .notFound)
  let output := OpGraph.runProgram files [] arguments
  IO.print output.out
  IO.eprint output.err
  return output.code
