import PointSelect.Command.Run

namespace PointSelect.Command

/-- How the program is called. -/
def usage : String :=
  "Usage: implore-pick [--log-level LEVEL] [-c FILE] select -p FILE (-s FILE | -e PATTERN...) " ++
    "[--search] [-o FILE]\n       implore-pick [--log-level LEVEL] [-c FILE] check " ++
    "(-s FILE | -e PATTERN...)\n       implore-pick --version\n"

/-- The paths that may be read. -/
def Request.inputs : Request → List String
  | .version => []
  | .run i =>
    i.config.toList ++
      (match i.source with
        | .file path => [path]
        | .given _ => []) ++
      match i.task with
        | .select points _ _ => [points]
        | .check => []

/-- The path that may be written. -/
def Request.output? : Request → Option String
  | .run ⟨_, _, _, .select _ _ output⟩ => output
  | _ => none

/-- What an error of the system says of a path. -/
def fileErrorOf : IO.Error → FileError
  | .inappropriateType _ code _ => if code = 21 then .isDirectory else .notDirectory
  | _ => .notFound

/-- Adds what stands at a path to a directory. A path that goes through a file is known by that
file. -/
def addPath (d : Directory) (path : String) : IO Directory := do
  let place := Place.ofPath path
  try
    return d.put place (← IO.FS.readBinFile path).toList
  catch e => match fileErrorOf e with
    | .isDirectory => return { d with directories := place :: d.directories }
    | .notDirectory => return d.put (if Place.namesDirectory path then place else place.dropLast) []
    | _ => return d

/-- The part of the file system that can be seen. Whether the output file can be created is found
out when it is written. -/
def Request.directory (r : Request) : IO Directory := do
  let parents := r.output?.toList.map fun path => (Place.ofPath path).dropLast
  r.inputs.foldlM addPath ⟨[], parents⟩

/-- Writes the output file if all went well. -/
def Request.save (r : Request) (o : Outcome) : IO (Option Failure) := do
  match o.failure, r.output? with
  | none, some path =>
    let content := (o.directory.get? (Place.ofPath path)).getD []
    try
      IO.FS.writeBinFile path ⟨content.toArray⟩
      return none
    catch e => return some (.output (fileErrorOf e))
  | failure, _ => return failure

/-- Shows the answer and returns the exit status. -/
def Request.report (r : Request) : IO UInt32 := do
  let o := r.answer (← r.directory)
  o.log.forM IO.eprintln
  match ← r.save o with
  | none =>
    IO.print o.stdout
    return 0
  | some failure =>
    IO.eprintln ("Error: " ++ failure.describe)
    return 1

end PointSelect.Command

open PointSelect.Command in
/-- The program. -/
def main (arguments : List String) : IO UInt32 := do
  match Request.parse? arguments with
  | none =>
    IO.eprint usage
    return 2
  | some request => request.report
