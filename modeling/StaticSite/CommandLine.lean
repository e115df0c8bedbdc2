import StaticSite.CommandLine.Words
import StaticSite.Project.Build

set_option autoImplicit false

/-! # The command line

Two commands: `build` builds a project, and `query` runs a query from a file on the contents of a
project. A command line becomes a plan: what is changed on the disk, and what is printed. -/

namespace StaticSite.CommandLine

/-- What a command line leads to. Standard output is printed only after all changes are made. -/
structure Plan where
  changes : List Change := []
  output : String := ""
  errors : String := ""
  status : Nat := 0

/-- Lines, each with a line feed at its end. -/
def lines (ls : List String) : String :=
  String.join (ls.map (· ++ "\n"))

/-! ## Commands -/

/-- A command of the program, or the program itself. -/
structure Command where
  /-- The words that call the command. -/
  call : String
  /-- What may follow them. -/
  usage : String
  options : List KnownOption
  help : List String

namespace Command

/-- The option that shows what a command does. -/
def helpOption : KnownOption := { name := "--help" }

/-- The program. -/
def program : Command :=
  { call := "stele", usage := "[OPTIONS] COMMAND [ARGS]..."
    options := [{ name := "--version" }, { name := "--verbose", letter := some 'v' }, helpOption]
    help := ["  Stele static site generator.", "", "Options:",
      "  --version      Show the version and exit.", "  -v, --verbose  Show debug logging",
      "  --help         Show this message and exit.", "", "Commands:",
      "  build  Build the site into the output directory.",
      "  query  Run a YAML or JSON query file and print the matching slugs."] }

/-- The command that builds a project. -/
def build : Command :=
  { call := "stele build", usage := "[OPTIONS] [PROJECT]"
    options := [{ name := "--base-url", takesValue := true }, { name := "--output", takesValue := true },
      { name := "--no-clean" }, helpOption]
    help := ["  Build the site into the output directory.", "", "Options:",
      "  --base-url TEXT     Base URL (overrides stele.yaml)",
      "  --output DIRECTORY  Output directory (overrides stele.yaml)",
      "  --no-clean          Keep existing files in the output directory",
      "  --help              Show this message and exit."] }

/-- The command that runs a query. -/
def query : Command :=
  { call := "stele query", usage := "[OPTIONS] QUERY_FILE"
    options := [{ name := "--project", takesValue := true }, helpOption]
    help := ["  Run a YAML or JSON query file and print the matching slugs.", "", "Options:",
      "  --project DIRECTORY  Project folder", "  --help               Show this message and exit."] }

/-- How a command is called. -/
def usageLine (c : Command) : String :=
  "Usage: " ++ c.call ++ " " ++ c.usage

/-- The help of a command. -/
def helpText (c : Command) : String :=
  lines (c.usageLine :: "" :: c.help)

/-- The plan for a command line that is misused. -/
def refuse (c : Command) (m : Misuse) : Plan :=
  { errors := lines [c.usageLine, "Try '" ++ c.call ++ " --help' for help.", "",
      "Error: " ++ m.message]
    status := 2 }

end Command

/-! ## Paths that are given -/

/-- What a path that is given has to lead to. -/
inductive Wanted where
  | file
  | folder
  /-- A folder, or nothing. -/
  | freeFolder
  deriving DecidableEq

/-- What is wanted, as messages call it. -/
def Wanted.kind : Wanted → String
  | file => "File"
  | folder | freeFolder => "Directory"

/-- Checks the path that is given for a parameter. -/
def checkPath (disk : Disk) (parameter : String) (wanted : Wanted) (text : String) :
    Except Misuse Path :=
  let p := Path.ofText text
  let bad (fault : String) : Except Misuse Path :=
    .error (.badPath parameter wanted.kind text fault)
  match (if text.isEmpty then none else disk.find? p) with
  | none => if wanted = .freeFolder then .ok p else bad "does not exist"
  | some (.file _) => if wanted = .file then .ok p else bad "is a file"
  | some .folder => if wanted = .file then bad "is a directory" else .ok p

/-- The path that leads to the same place from the top of the disk. -/
def resolved (disk : Disk) (p : Path) : Path :=
  match disk.locate p with
  | .ok place => { isAbsolute := true, names := place }
  | .error _ => p

/-- The value of an option, if it is given and can be used. -/
def optionPath (disk : Disk) (w : Words) (name : String) (wanted : Wanted) :
    Except Misuse (Option Path) :=
  match w.value? name with
  | none => .ok none
  | some text => (checkPath disk name wanted text).map some

/-! ## Reports -/

/-- The report of a failed build. Files of the project are named from its folder on. -/
def report (root : Path) (path : String) (problem : Problem) : Plan :=
  let p := Path.ofText path
  { errors := lines ["Build failed:", "  File: " ++ ((p.relativeTo? root).getD p).toText,
      "  Error: " ++ problem.message]
    status := 1 }

/-- A plan in which failures that name a file are reported. -/
def reported (root : Path) (plan : Noted Plan) : Noted Plan :=
  tryCatch plan fun
    | .file _ path problem => return report root path problem
    | f => throw f

/-! ## Building -/

/-- What the command `build` is given. -/
structure BuildArguments where
  project : Path
  options : BuildOptions

/-- Reads what the command `build` is given. -/
def readBuild (disk : Disk) (now : Binary64) (words : List String) :
    Except Misuse (Option BuildArguments) := do
  let w ← Words.read Command.build.options true words
  if w.has "--help" then return none
  let output ← optionPath disk w "--output" .freeFolder
  let project ← checkPath disk "[PROJECT]" .folder (w.arguments.head?.getD ".")
  match w.arguments with
  | _ :: first :: more => throw (.extraArguments (first :: more))
  | _ =>
      return some {
        project := resolved disk project
        options := { baseUrl := w.value? "--base-url", output, clean := !w.has "--no-clean", now } }

/-- Builds a project. -/
def planBuild (disk : Disk) (a : BuildArguments) : Noted Plan :=
  reported a.project do
    let b ← (Project.mk disk a.project).prepare a.options
    return {
      changes := b.changes a.options.clean
      output := lines [s!"Built {b.outputs.length} files into " ++ b.folder.toText] }

/-! ## Querying -/

/-- What the command `query` is given. -/
structure QueryArguments where
  file : Path
  project : Path

/-- Reads what the command `query` is given. -/
def readQuery (disk : Disk) (words : List String) : Except Misuse (Option QueryArguments) := do
  let w ← Words.read Command.query.options true words
  if w.has "--help" then return none
  let given ← optionPath disk w "--project" .folder
  match w.arguments with
  | [] => throw (.missingArgument "QUERY_FILE")
  | word :: more =>
      let file ← checkPath disk "QUERY_FILE" .file word
      let project ← match given with
        | some p => pure p
        | none => checkPath disk "--project" .folder "."
      if more.isEmpty then return some { file, project := resolved disk project }
      else throw (.extraArguments more)

/-- The contents of a project and the query of a file. -/
def loadQuery (disk : Disk) (a : QueryArguments) : Noted (List Content × Query) := do
  let site ← (Project.mk disk a.project).site none
  let data ← Project.readMapping disk .build a.file
  let query ← Query.ofValue (.map data)
  return (site.contents, query)

/-- Loads what a query needs. Data that does not make up a project or query is a fault of the query. -/
def tryQuery (disk : Disk) (a : QueryArguments) : Noted (Except Fault (List Content × Query)) :=
  tryCatch (Except.ok <$> loadQuery disk a) fun
    | .data f => if Project.partFaults.contains f.category then return .error f else throw (.data f)
    | f => throw f

/-- How a content that was found is printed. -/
def shown (c : Content) : Checked String :=
  Json.write .line (.ofFields [("id", .str c.id), ("slug", .str c.slug)])

/-- Runs a query. -/
def planQuery (disk : Disk) (now : Binary64) (a : QueryArguments) : Noted Plan :=
  reported a.project do
    match ← tryQuery disk a with
    | .error f => return { errors := lines ["Error: Invalid query: " ++ f.message], status := 1 }
    | .ok (contents, query) =>
        let found ← Query.runOn (·.definition.id) Content.queryFields (.float now) query contents
        let texts ← found.mapM fun c => do return ← shown c
        return { output := lines texts }

/-! ## All commands -/

/-- The plan for the words behind the name of a command, once they are read. -/
def planned {α : Type} (c : Command) (read : Except Misuse (Option α)) (plan : α → Noted Plan) :
    Noted Plan :=
  match read with
  | .error m => return c.refuse m
  | .ok none => return { output := c.helpText }
  | .ok (some a) => plan a

/-- The plan for the words behind the options of the program. -/
def planCommand (disk : Disk) (now : Binary64) : List String → Noted Plan
  | [] => return Command.program.refuse .missingCommand
  | name :: words =>
      if name = "build" then planned .build (readBuild disk now words) (planBuild disk)
      else if name = "query" then planned .query (readQuery disk words) (planQuery disk now)
      else return Command.program.refuse (.noSuchCommand name)

/-- The plan for a command line. -/
def plan (disk : Disk) (now : Binary64) (words : List String) : Noted Plan := do
  if words.isEmpty then return { errors := Command.program.helpText, status := 2 }
  match Words.read Command.program.options false words with
  | .error m => return Command.program.refuse m
  | .ok w =>
      match w.options.find? fun o => o.1 == "--help" || o.1 == "--version" with
      | some ("--help", _) => return { output := Command.program.helpText }
      | some _ => return { output := lines [Site.generator ++ ", version " ++ Site.version] }
      | none => planCommand disk now w.arguments

end StaticSite.CommandLine
