import SqlTemplate.Command

/-!
# The command line

    sql-template -t FILE [-p FILE] [--injection-filter PATTERN] [-v] COMMAND

The commands are `render`, with the options `-d NAME`, `--shrink-whitespace` and `--json`, and
`expand`. Reading the arguments is a function; only reading files and printing are not.
-/

namespace SqlTemplate.Command

/-- The arguments read so far. -/
structure Arguments where
  template : Option String := none
  parameters : Option String := none
  filter : Option String := none
  database : Option String := none
  shrink : Bool := false
  json : Bool := false
  command : Option String := none

/-- Reads the arguments; fails at the first that means nothing. -/
def readArguments (a : Arguments) : List String → Option Arguments
  | [] => some a
  | "-t" :: path :: rest | "--template" :: path :: rest =>
    readArguments { a with template := some path } rest
  | "-p" :: path :: rest | "--params" :: path :: rest =>
    readArguments { a with parameters := some path } rest
  | "--injection-filter" :: pattern :: rest =>
    readArguments { a with filter := some pattern } rest
  | "-d" :: name :: rest | "--database-id" :: name :: rest =>
    readArguments { a with database := some name } rest
  | "-v" :: rest | "--verbose" :: rest => readArguments a rest
  | "--shrink-whitespace" :: rest => readArguments { a with shrink := true } rest
  | "--json" :: rest => readArguments { a with json := true } rest
  | word :: rest =>
    if a.command.isNone && (word == "render" || word == "expand") then
      readArguments { a with command := some word } rest
    else none

/-- What the arguments ask for; only `render` takes the options of its own. -/
def Arguments.action? (a : Arguments) : Option Action :=
  match a.command with
  | some "render" => some (.render a.database a.shrink a.json)
  | some "expand" =>
    if a.database.isSome || a.shrink || a.json then none else some .expand
  | _ => none

/-- Reads a file, if it can be read. -/
def readFile (path : String) : IO File := do
  try
    return { path, text := some (← IO.FS.readFile path) }
  catch _ => return { path, text := none }

/-- Says how the command is used. -/
def showUsage : IO UInt32 := do
  IO.eprintln "usage: sql-template -t FILE [-p FILE] [--injection-filter PATTERN] [-v] COMMAND"
  return 2

/-- Reads the files that the arguments name, and prints what the command makes of them. -/
def runArguments (arguments : List String) : IO UInt32 := do
  let some a := readArguments {} arguments | showUsage
  let some action := a.action? | showUsage
  let some template := a.template | showUsage
  let request : Request :=
    { template := ← readFile template
      parameters := ← a.parameters.mapM readFile
      filter := a.filter
      action }
  match run request with
  | .ok text =>
    IO.println text
    return 0
  | .error failure =>
    IO.eprintln ("Error: " ++ failure.message)
    return 1

end SqlTemplate.Command

/-- Runs the command. -/
def main (arguments : List String) : IO UInt32 := SqlTemplate.Command.runArguments arguments
