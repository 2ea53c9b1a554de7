import OpGraph.CommandLine.Arguments
import OpGraph.CommandLine.LogFilter
import OpGraph.Restore

/-!
# The program behind the command line

What the program prints and its exit code, as a function of the arguments and the files. Code 0
means success, 1 that the command failed, 2 that the arguments are not understood, and 101 that the
program stopped abruptly.
-/

namespace OpGraph

/-- The exit code of the program and what it prints to standard output and standard error. The log
lines that the filter of the arguments lets pass to standard error are left out. -/
structure ProgramOutput where
  code : UInt32
  out : String := ""
  err : String := ""
  deriving DecidableEq, Repr

def versionLine : String := "irloom 0.1.0\n"

def usage : String :=
  "Usage: irloom [--log FILTER] inspect FILE [--config FILE] [--fallback]\n"
    ++ "       irloom [--log FILTER] extenders\n"

/-- A text whose lines behind the first are indented. -/
def indentLines (indent : Nat) (text : String) : String :=
  String.intercalate ("\n" ++ String.ofList (List.replicate indent ' '))
    ((text.toList.splitOn '\n').map String.ofList)

/-- The causes of a failure, numbered from zero if there are several. -/
def causeLines (causes : List String) : List String :=
  match causes with
  | [cause] => ["    " ++ indentLines 4 cause]
  | causes => causes.zipIdx.map fun (cause, i) =>
      padLeft 5 (Nat.repr i) ++ ": " ++ indentLines 7 cause

def failureReport (context : String) (causes : List String) : String :=
  "Error: " ++ context ++ "\n\nCaused by:\n"
    ++ String.join ((causeLines causes).map fun line => line ++ "\n")

def ProgramOutput.failure (context : String) (causes : List String) : ProgramOutput :=
  { code := 1, err := failureReport context causes }

/-- The output of a command that failed to read or restore a graph. -/
def RestoreError.output (e : RestoreError) (context : String) : ProgramOutput :=
  .failure context (e.message :: e.cause?.toList)

/-- The configuration of an inspection: that of the file, if one is given, with the fallback turned
on if asked for. -/
def inspectConfig (files : FileReader) (config : Option String) (fallback : Bool) :
    Except ProgramOutput Config := do
  let c ←
    match config with
    | none => pure {}
    | some path =>
      (readConfigFile files path).mapError fun e => e.output s!"loading config {path}"
  return { c with
    infer := { c.infer with fallbackToRecorded := c.infer.fallbackToRecorded || fallback } }

/-- Restore a graph and print its table. -/
def inspect (files : FileReader) (inventory : List Extender) (path : String)
    (config : Option String) (fallback : Bool) : ProgramOutput :=
  match inspectConfig files config fallback with
  | .error output => output
  | .ok c =>
    match restoreGraphFile inventory c files path with
    | .error e => e.output s!"restoring {path}"
    | .ok (g, _) => { code := 0, out := g.render }

/-- Print the operator types that have extenders, one on a line. -/
def listExtenders (inventory : List Extender) : ProgramOutput :=
  { code := 0
    out := String.join ((Registry.builtin.collect inventory).opTypes.map fun t => t ++ "\n") }

def runCommand (files : FileReader) (inventory : List Extender) : Command → ProgramOutput
  | .inspect path config fallback => inspect files inventory path config fallback
  | .extenders => listExtenders inventory

/-- Run the program. The log filter is checked before any file is read. Beyond that check it has no
effect here, since the log lines on standard error are left out. -/
def runProgram (files : FileReader) (inventory : List Extender) (arguments : List String) :
    ProgramOutput :=
  match Request.ofArguments? arguments with
  | none => { code := 2, err := usage }
  | some .version => { code := 0, out := versionLine }
  | some .help => { code := 0, out := usage }
  | some (.run log command) =>
    match LogFilter.check log with
    | .ok () => runCommand files inventory command
    | .error .malformed => .failure "invalid --log filter" ["invalid filter directive"]
    | .error .brokenCharacter => { code := 101, err := "a filter directive splits a character\n" }

end OpGraph
