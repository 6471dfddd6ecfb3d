import RowQuery.Plan

/-! # Command lines

A command line has options first, then a command with arguments of its own. After `--` every
argument is taken as it stands.
-/

namespace RowQuery.Shell

/-- What is to be done. -/
inductive Command where
  /-- Read commands from the input. -/
  | shell
  /-- Run a query. -/
  | query (text : String)
  /-- Show the plan of a query, or the query itself as JSON. -/
  | explain (text : String) (json : Bool)
  /-- Run the demonstration queries. -/
  | demo
  /-- Tell the version of the program. -/
  | version
  deriving DecidableEq

/-- A command with the choices to be made for its queries. -/
structure Invocation where
  /-- The choices for compiling and running queries. -/
  config : Config
  /-- The command. -/
  command : Command
  deriving DecidableEq

/-- Arguments sorted into the flags that were given and the texts. -/
structure Sorted where
  /-- The flags that were given. -/
  flags : List String := []
  /-- The other arguments. -/
  texts : List String := []

/-- Whether an argument is an option rather than a text. -/
def isOption (argument : String) : Bool :=
  match argument.toList with
  | '-' :: _ :: _ => true
  | _ => false

/-- Sorts the arguments of a command that knows some flags; an unknown option or a flag given twice
is refused. -/
def sort? (known : List String) : List String → Option Sorted
  | [] => some {}
  | argument :: rest =>
    if argument = "--" then some { texts := rest }
    else
      match sort? known rest with
      | none => none
      | some sorted =>
        if isOption argument then
          if known.contains argument && !sorted.flags.contains argument then
            some { sorted with flags := argument :: sorted.flags }
          else none
        else some { sorted with texts := argument :: sorted.texts }

/-- The command that a name and its arguments stand for. -/
def command? (name : String) (arguments : List String) : Option Command :=
  if name = "shell" then
    match sort? [] arguments with
    | some ⟨_, []⟩ => some .shell
    | _ => none
  else if name = "demo" then
    match sort? [] arguments with
    | some ⟨_, []⟩ => some .demo
    | _ => none
  else if name = "query" then
    match sort? [] arguments with
    | some ⟨_, [text]⟩ => some (.query text)
    | _ => none
  else if name = "explain" then
    match sort? ["--json"] arguments with
    | some ⟨flags, [text]⟩ => some (.explain text (flags.contains "--json"))
    | _ => none
  else none

/-- Whether an argument asks for the version; what follows the letter of the short form is not
looked at. -/
def asksVersion (argument : String) : Bool :=
  argument = "--version" || argument.toList.take 2 = ['-', 'V']

/-- Reads the options before the command, each of which may be given once, and then the command;
without one the shell is started. Nothing is read after an option that asks for the version. -/
def invocation? (config : Config) : List String → Option Invocation
  | [] => some ⟨config, .shell⟩
  | argument :: rest =>
    if argument = "--no-optimize" then
      if config.optimize then invocation? { config with optimize := false } rest else none
    else if argument = "--no-batch" then
      if config.batches then invocation? { config with batches := false } rest else none
    else if asksVersion argument then some ⟨config, .version⟩
    else if argument = "--" then
      if rest.isEmpty then some ⟨config, .shell⟩ else none
    else (command? argument rest).map (⟨config, ·⟩)

/-- The forms of a command line. -/
def usage : String :=
  "Usage: tsql [--no-optimize] [--no-batch] [--version] " ++
    "[shell | query QUERY | explain QUERY [--json] | demo]"

/-- The invocation that a command line stands for, if it is well formed. -/
def Invocation.ofArguments? (arguments : List String) : Option Invocation :=
  invocation? {} arguments

end RowQuery.Shell
