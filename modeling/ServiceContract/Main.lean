import ServiceContract.CommandLine.Paths
import ServiceContract.CommandLine.Run
import ServiceContract.Yaml.Node

/-!
# The program

The program looks at the files that its command line may lead to, runs on what it saw, and prints
what comes of it.  It has no access to the web, so every request fails.
-/

open ServiceContract

/-- The names on the way to the working directory. -/
def here : IO (List Files.Name) := do
  return (Files.namesOf (← IO.currentDir).toString.toUTF8.toList).filter (!·.isEmpty)

/-- Adds what there is at a place. -/
def lookAt (files : Files.Tree) (place : List Files.Name) : IO Files.Tree := do
  let there := (← IO.currentDir) / (Files.pathTo place).escapeSurrogates
  if ← there.isDir then return { files with directories := place :: files.directories }
  else
    try
      let octets := (← IO.FS.readBinFile there).toList
      return { files with files := (place, octets) :: files.files }
    catch _ => return files

/-- Adds what there is on the way along some paths. -/
def follow (files : Files.Tree) (paths : List Text) : IO Files.Tree :=
  let octets := paths.filterMap fun path => (Files.octetsOf path).toOption
  (octets.flatMap files.places).foldlM lookAt files

/-- The files that a command line may lead to. -/
def look (words : List Text) : IO Files.Tree := do
  let paths := CommandLine.givenPaths words
  let files ← follow { workingDirectory := ← here } paths
  let texts := paths.filterMap fun path => (files.readText path).toOption
  follow files (texts.flatMap CommandLine.importPaths)

/-- The variables that settings come from. -/
def readEnvironment : IO Settings.Environment :=
  try
    return Settings.Environment.ofOctets (← IO.FS.readBinFile "/proc/self/environ").toList
  catch _ => return []

/-- The world that a command line meets with. -/
def worldFor (words : List Text) : IO CommandLine.World := do
  return {
    files := ← look words
    environment := ← readEnvironment
    send := fun _ => .error "no network"
    readYaml := Yaml.read
    writer := { record := fun _ record => record.line.escapeSurrogates } }

def main (arguments : List String) : IO UInt32 := do
  let words := arguments.map Text.ofString
  match CommandLine.run (← worldFor words) words with
  | .ok printed =>
    IO.print printed.output
    IO.eprint printed.complaints
    return UInt32.ofNat printed.exitCode
  | .error stop =>
    IO.eprintln ("Error: " ++ stop.message.escapeSurrogates)
    return 1
