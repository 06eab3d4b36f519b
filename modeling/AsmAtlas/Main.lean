import AsmAtlas.CommandLine.Report

/-!
# The program

Reads the files that a command line is about, runs the query and prints its result. The folders
are walked without the help of other programs, and output is not coloured.
-/

namespace AsmAtlas
namespace Main

/-- How deep folders are read; links that lead back up would never end. -/
def maxDepth : Nat := 64

/-- The file or folder at a path, with everything below it. What cannot be read is left out. -/
def readTree : Nat → String → IO (Option FileTree)
  | 0, _ => pure none
  | depth + 1, path => do
    let here := (← IO.currentDir) / path
    if ← here.isDir then
      let mut entries : List (Text × FileTree) := []
      for entry in ← (try here.readDir catch _ => pure #[]) do
        if let some t ← readTree depth (here / entry.fileName).toString then
          entries := (entry.fileName.toList, t) :: entries
      return some (.folder entries)
    else if ← here.pathExists then
      try return some (.file (← IO.FS.readBinFile here)) catch _ => return none
    else return none

/-- Puts what stands at a place on the disk into a tree. -/
def take (t : FileTree) (p : Path) : IO FileTree := do
  match ← readTree maxDepth (String.ofList p.absoluteText) with
  | some found => return t.put (fun _ => found) p.parts
  | none => return t

/-- Puts a place into a tree, but of a folder only that it is there. -/
def look (t : FileTree) (p : Path) : IO FileTree := do
  let here := (← IO.currentDir) / String.ofList p.absoluteText
  if ← here.isDir then return t.makeFolder p
  else if ← here.pathExists then take t p
  else return t

/-- The places that a written path passes through, from the present folder on. -/
def stations (here : Path) (w : WrittenPath) : List Path :=
  (List.range (w.parts.length + 1)).map fun n =>
    ({ w with parts := w.parts.take n } : WrittenPath).resolve here

/-- The files that a command line is about. -/
def readFor (here : Path) (arguments : CommandLine.Arguments) : IO FileTree := do
  let mut t : FileTree := .folder []
  let mut roots := arguments.roots.map fun r => (WrittenPath.ofText r).resolve here
  if let some file := arguments.file then
    let written := WrittenPath.ofText file
    for p in stations here written do
      t ← look t p
    let p := written.resolve here
    if roots.isEmpty && t.isFile p then roots := [p.parent]
  if roots.isEmpty then roots := [here]
  for p in roots do
    t ← take t p
  return t

/-- The settings file of the user. -/
def userSettings : IO (Option ByteArray) := do
  let folder ← do
    match ← IO.getEnv "XDG_CONFIG_HOME" with
    | some f => if f.isEmpty then pure none else pure (some f)
    | none => pure none
  let folder ← do
    match folder with
    | some f => pure (some f)
    | none => pure ((← IO.getEnv "HOME").map (· ++ "/.config"))
  match folder with
  | none => return none
  | some f =>
    try return some (← IO.FS.readBinFile (f ++ "/asmlens/config.json"))
    catch _ => return none

/-- What is printed when the words are not understood. -/
def usage : String :=
  "\n".intercalate ["usage: [--root DIR]... COMMAND", "commands:", "  outline FILE",
    "  lenses FILE", "  folding FILE", "  references FILE LINE COLUMN [--include-declaration]",
    "  definition FILE LINE COLUMN", "  complete FILE LINE COLUMN", "  hover FILE LINE COLUMN",
    "  rename FILE LINE COLUMN NAME", "  symbols QUERY", "  unreferenced"]

/-- Prints an outcome and gives the status to exit with. -/
def finish (o : CommandLine.Outcome) : IO UInt32 := do
  IO.print (String.ofList o.output)
  IO.eprint (String.ofList o.notes)
  match o.exit with
  | .success => return 0
  | .usage =>
    IO.eprintln usage
    return 2
  | .incomplete =>
    IO.eprintln "a value is missing"
    return 1
  | .failure message =>
    IO.eprintln (String.ofList message)
    return 1

/-- Why there is no outcome. -/
def explain : Halt → String
  | .cancelled => "cancelled"
  | .failed (.badGlob _) => "a glob in the settings has no meaning"
  | .failed .badName => "a name holds a null character"
  | .failed .longName => "a name is too long"
  | .failed .denied => "a folder may not be entered"
  | .failed .fullStack => "something is nested too deep"

end Main
end AsmAtlas

open AsmAtlas in
/-- Runs the program. -/
def main (args : List String) : IO UInt32 := do
  let words := args.map String.toList
  let here := (WrittenPath.ofText (← IO.currentDir).toString.toList).resolve ⟨[]⟩
  match CommandLine.Arguments.read words with
  | .error .help =>
    IO.println Main.usage
    return 0
  | .error .usage => Main.finish { exit := .usage }
  | .ok arguments =>
    let files ← Main.readFor here arguments
    let w : Workspace := { files, userSettings := ← Main.userSettings }
    match ((CommandLine.run w here words).start none).1 with
    | .ok outcome => Main.finish outcome
    | .error halt =>
      IO.eprintln (Main.explain halt)
      return 1
