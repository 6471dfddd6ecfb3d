import RowQuery.Demo
import RowQuery.Query.Document
import RowQuery.Shell.Arguments
import RowQuery.Shell.TypedLine

/-! # The shell

Runs queries over the demonstration data, from a command line or from lines of input.
-/

namespace RowQuery.Shell

/-- What a program run leaves: its exit code and what it wrote. -/
structure Report where
  /-- The exit code. -/
  code : Nat := 0
  /-- What was written to the output. -/
  output : String := ""
  /-- What was written as errors. -/
  errors : String := ""

/-- A failure with what was being done. -/
structure Failure where
  /-- What was being done. -/
  context : String
  /-- The message of the failure. -/
  cause : String

namespace Failure

/-- A failure on one line. -/
def line (failure : Failure) : String := failure.context ++ ": " ++ failure.cause

/-- A failure with its cause indented below it. -/
def block (failure : Failure) : String :=
  "Error: " ++ failure.context ++ "\n\nCaused by:\n    " ++
    "\n    ".intercalate (failure.cause.splitOn "\n") ++ "\n"

end Failure

/-- The plan of a query over the employees. -/
def plan (config : Config) (text : String) : Except Failure (Plan Person) :=
  (Plan.compile Demo.scope config text).mapError fun cause =>
    ⟨"Failed to compile `" ++ text ++ "`", cause.message⟩

/-- A buffer as a table under the shape of its elements. -/
def tableText {R : Type} [RowType R] (shape : Shape) (buffer : Buffer R) : String :=
  let header := shape.text
  let rows := (List.range buffer.size).filterMap buffer.rowText?
  let lines := ["| " ++ header ++ " |",
      "+" ++ String.ofList (List.replicate (header.utf8ByteSize + 2) '-') ++ "+"] ++
    rows.map ("| " ++ ·) ++ ["(" ++ Text.natText buffer.size ++ " rows)"]
  "\n".intercalate lines ++ "\n"

/-- The table of a plan's result over the employees. -/
def resultText (plan : Plan Person) : String :=
  match (plan.run Demo.people).run.value with
  | .ok buffer => tableText plan.publicShape buffer
  | .error fault => fault.message ++ "\n"

/-- The result of a query. -/
def query (config : Config) (text : String) : Except Failure String :=
  (plan config text).map resultText

/-- The plan of a query, or the query itself as JSON. -/
def explain (config : Config) (text : String) (json : Bool) : Except Failure String :=
  if json then
    match Query.parse text with
    | .ok query => .ok (query.toJson.pretty 0 ++ "\n")
    | .error cause => .error ⟨"Failed to parse `" ++ text ++ "`", cause.message⟩
  else (plan config text).map (·.describe)

/-- The plan and result of a demonstration query, under its title. -/
def sampleText (config : Config) (sample : Demo.Sample) : Except Failure String := do
  let plan ← plan config sample.query
  return "-- " ++ sample.title ++ "\n" ++ plan.describe ++ resultText plan ++ "\n"

/-- The employees and all demonstration queries. -/
def demo (config : Config) : Except Failure String := do
  let rows := String.join (Demo.people.map fun person => "  " ++ person.describe ++ "\n")
  let samples ← Demo.samples.mapM (sampleText config)
  return "Input data:\n" ++ rows ++ "\n" ++ String.join samples

/-- The help of the shell. -/
def helpText : String :=
  "Available commands:\n" ++
  "  SELECT * FROM $ [WHERE ...]          - Query the demonstration rows\n" ++
  "  SELECT col[, col...] FROM $ ...      - Project columns\n" ++
  "  EXPLAIN <query>                      - Show the compiled plan\n" ++
  "  demo                                 - Run the demonstration queries\n" ++
  "\n" ++
  "Predicates:\n" ++
  "  col = | != | > | >= | < | <= literal - Literals: 42, 2.5, 'text', true, false, null\n" ++
  "  AND, OR, NOT, ( ... )                - Combine comparisons\n" ++
  "\n" ++
  "Columns: id, name, age, city, salary, department, isManager,\n" ++
  "         yearsAtCompany, country, team, level\n" ++
  "\n" ++
  "Other commands:\n" ++
  "  help                                 - Display this help message\n" ++
  "  exit                                 - Exit the shell\n"

/-- The rest of a line that starts with a word, in any case of its letters. -/
def afterWord? (word line : String) : Option String :=
  let start := line.toList.take word.length
  if Text.sameIgnoringCase (String.ofList start) word then
    some (String.ofList (line.toList.drop word.length))
  else none

/-- What a typed line leads to: what is written, or nothing if it ends the shell. -/
def answer (config : Config) (typed : String) : Option String :=
  let line := Text.trim typed
  let lower := Text.lower line
  if line = "" then some ""
  else if lower = "exit" || lower = "quit" then none
  else
    let outcome :=
      if lower = "help" then .ok helpText
      else if lower = "demo" then demo config
      else match afterWord? "explain " line with
        | some text => explain config (Text.trim text) false
        | none => query config line
    match outcome with
    | .ok text => some text
    | .error failure => some ("Error: " ++ failure.line ++ "\n")

/-- The line that greets the user. -/
def greeting : String := "Welcome to tsql. Type 'help' for assistance or 'exit' to quit.\n"

/-- The line that takes leave of the user. -/
def farewell : String := "Goodbye!\n"

/-- The line written when the input ends. -/
def endOfInput : String := "CTRL-D\n"

/-- The error of a line in which a backspace would split a character. -/
def splitCharacter : String := "A backspace would split a character\n"

/-- What the shell does on a line of input. -/
inductive Reply where
  /-- Write a text and go on. -/
  | go (text : String)
  /-- Write the rest of the report and end. -/
  | stop (rest : Report)

/-- The reply to a line of input. -/
def reply (config : Config) (line : String) : Reply :=
  match TypedLine.read? line with
  | none => .stop { code := 101, errors := splitCharacter }
  | some typed =>
    match answer config typed with
    | some text => .go text
    | none => .stop { output := farewell }

/-- The report of the shell on some lines of input, up to the one that ends it. -/
def dialogue (config : Config) : List String → Report
  | [] => { output := endOfInput }
  | line :: rest =>
    match reply config line with
    | .go text =>
      let report := dialogue config rest
      { report with output := text ++ report.output }
    | .stop report => report

/-- The name and version of the program. -/
def versionText : String := "typedsql 0.1.0\n"

/-- Does what an invocation asks for, with a text as input. -/
def perform (invocation : Invocation) (input : String) : Report :=
  let config := invocation.config
  match invocation.command with
  | .shell =>
    let report := dialogue config (inputLines input)
    { report with output := greeting ++ report.output }
  | .query text =>
    match query config text with
    | .ok output => { output := output }
    | .error failure => { errors := "Error executing query: " ++ failure.line ++ "\n" }
  | .explain text json =>
    match explain config text json with
    | .ok output => { output := output }
    | .error failure => { code := 1, errors := failure.block }
  | .demo =>
    match demo config with
    | .ok output => { output := output }
    | .error failure => { code := 1, errors := failure.block }
  | .version => { output := versionText }

/-- Does what a command line asks for; nothing if the command line is not well formed. -/
def run? (arguments : List String) (input : String) : Option Report :=
  (Invocation.ofArguments? arguments).map (perform · input)

end RowQuery.Shell
