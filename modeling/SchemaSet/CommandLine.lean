import SchemaSet.Index.Builder
import SchemaSet.Report

/-!
# The command line

There are three commands.  `index` builds the index of a directory and prints it, `resolve` answers
one request from it, and `compile` compiles a schema set with it.

A command yields an exit status and the texts for standard output and standard error.  A request
that nothing is indexed under has status 2, an inconsistent schema set 3, any other error 1, and
arguments that make no sense 2.
-/

namespace SchemaSet
namespace CommandLine

/-- An option of a command. -/
structure OptionSpec where
  /-- The name after two dashes. -/
  long : String
  /-- The letter after one dash. -/
  short : Option Char
  takesValue : Bool
  /-- Whether the option may be given more than once. -/
  repeatable : Bool
  /-- Whether nothing that follows the option is read. -/
  last : Bool
deriving DecidableEq, Repr

/-- Arguments sorted by what they are. -/
structure Arguments where
  /-- The arguments that are no options, in order. -/
  positional : List String
  /-- The options with their values, in order; a flag has an empty value. -/
  given : List (String × String)
deriving DecidableEq, Repr

/-- Why arguments make no sense. -/
inductive Refusal
  | unexpected (argument : String)
  /-- An option lacks its value, or has one that it does not take. -/
  | badValue (option : String)
  | repeatedOption (option : String)
  | missing (what : String)
deriving DecidableEq, Repr

def Refusal.message : Refusal → String
  | .unexpected a => "unexpected argument '" ++ a ++ "'"
  | .badValue o => "invalid or missing value for '" ++ o ++ "'"
  | .repeatedOption o => "the argument '" ++ o ++ "' cannot be used multiple times"
  | .missing w => "missing " ++ w

def Arguments.add (a : Arguments) (spec : OptionSpec) (value : String) :
    Except Refusal Arguments :=
  if !spec.repeatable && a.given.any (·.1 == spec.long) then .error (.repeatedOption spec.long)
  else .ok { a with given := a.given ++ [(spec.long, value)] }

/-- Whether an argument looks like an option, so that it cannot be a value. -/
def looksLikeOption (s : String) : Bool :=
  match s.toList with
  | '-' :: _ :: _ => true
  | _ => false

/-- What an argument that may be an option amounts to: the arguments after it, and the option
that still waits for its value. -/
abbrev Pending := Arguments × Option OptionSpec

/-- Reads an argument after two dashes. -/
def readLong (specs : List OptionSpec) (a : Arguments) (cs : List Char) :
    Except Refusal Pending :=
  let (name, value) := match Text.cut (· == '=') cs with
    | some (n, v) => (String.ofList n, some (String.ofList v))
    | none => (String.ofList cs, none)
  match specs.find? (·.long == name), value with
  | none, _ => .error (.unexpected name)
  | some spec, some v =>
      if spec.takesValue then do return (← a.add spec v, none) else .error (.badValue name)
  | some spec, none =>
      if spec.takesValue then .ok (a, some spec) else do return (← a.add spec "", none)

/-- Reads the letters after one dash. -/
def readShort (specs : List OptionSpec) (a : Arguments) : List Char → Except Refusal Pending
  | [] => .ok (a, none)
  | c :: r =>
      match specs.find? (·.short == some c) with
      | none => .error (.unexpected (String.ofList [c]))
      | some spec =>
          if spec.takesValue then
            match r with
            | [] => .ok (a, some spec)
            | '=' :: v => do return (← a.add spec (String.ofList v), none)
            | v => do return (← a.add spec (String.ofList v), none)
          else do
            let a ← a.add spec ""
            if spec.last then return (a, none) else readShort specs a r

/-- Whether an option is given that nothing is read after. -/
def Arguments.isComplete (a : Arguments) (specs : List OptionSpec) : Bool :=
  specs.any fun spec => spec.last && a.given.any (·.1 == spec.long)

/-- Sorts arguments; `waiting` is the option whose value comes next. -/
def sort (specs : List OptionSpec) (a : Arguments) (waiting : Option OptionSpec) :
    List String → Except Refusal Arguments
  | [] =>
      match waiting with
      | some spec => .error (.badValue spec.long)
      | none => .ok a
  | s :: r =>
      match waiting with
      | some spec =>
          if looksLikeOption s then .error (.badValue spec.long)
          else do sort specs (← a.add spec s) none r
      | none =>
          match s.toList with
          | ['-', '-'] => .ok { a with positional := a.positional ++ r }
          | '-' :: '-' :: cs => do
              let (a, waiting) ← readLong specs a cs
              if a.isComplete specs then return a else sort specs a waiting r
          | '-' :: c :: cs => do
              let (a, waiting) ← readShort specs a (c :: cs)
              if a.isComplete specs then return a else sort specs a waiting r
          | _ => sort specs { a with positional := a.positional ++ [s] } none r

/-- The values given for an option. -/
def Arguments.values (a : Arguments) (name : String) : List String :=
  (a.given.filter (·.1 == name)).map Prod.snd

def Arguments.value? (a : Arguments) (name : String) : Option String := (a.values name).head?

def Arguments.hasFlag (a : Arguments) (name : String) : Bool := a.given.any (·.1 == name)

/-- A path, which may not be empty. -/
def readPath (what s : String) : Except Refusal Path :=
  if s.isEmpty then .error (.badValue what) else .ok (Path.ofString s)

def Arguments.onlyPath? (a : Arguments) (what : String) : Except Refusal (Option Path) :=
  match a.positional with
  | [s] => (readPath what s).map some
  | [] => .ok none
  | _ :: s :: _ => .error (.unexpected s)

/-- What is given, or the refusal of arguments that lack it. -/
def needed {α : Type} (what : String) : Option α → Except Refusal α
  | some a => .ok a
  | none => .error (.missing what)

/-- What is to be done. -/
inductive Command
  /-- Print how to use the program. -/
  | help
  | version
  | index (directory : Path) (extensions : List String) (policy : DuplicatePolicy) (json : Bool)
  /-- Answer one request from the index of a directory. -/
  | resolve (directory : Path) (uri publicId : Option String)
  /-- Compile a schema set with the index of a directory. -/
  | compile (entry directory : Path) (lenient json : Bool)
deriving DecidableEq, Repr

/-- The flag for help. -/
def helpSpec : OptionSpec := ⟨"help", some 'h', false, false, true⟩

/-- The flag for JSON. -/
def jsonSpec : OptionSpec := ⟨"json", some 'j', false, false, false⟩

/-- Reads the arguments of `index`. -/
def readIndex (args : List String) : Except Refusal Command := do
  let specs :=
    [helpSpec, jsonSpec, ⟨"ext", none, true, true, false⟩,
      ⟨"duplicates", none, true, false, false⟩]
  let a ← sort specs ⟨[], []⟩ none args
  let directory ← a.onlyPath? "DIR"
  let policy ← match a.value? "duplicates" with
    | some s => (DuplicatePolicy.parse s).mapError fun _ => Refusal.badValue "duplicates"
    | none => pure DuplicatePolicy.firstWins
  if a.hasFlag "help" then return .help
  let extensions := match a.values "ext" with
    | [] => [IndexPlan.defaultExtension]
    | es => es
  return .index (← needed "DIR" directory) extensions policy (a.hasFlag "json")

/-- Reads the arguments of `resolve`. -/
def readResolve (args : List String) : Except Refusal Command := do
  let specs :=
    [helpSpec, ⟨"namespace", some 'n', true, false, false⟩,
      ⟨"public-id", some 'p', true, false, false⟩]
  let a ← sort specs ⟨[], []⟩ none args
  let directory ← a.onlyPath? "DIR"
  if a.hasFlag "help" then return .help
  return .resolve (← needed "DIR" directory) (a.value? "namespace") (a.value? "public-id")

/-- Reads the arguments of `compile`. -/
def readCompile (args : List String) : Except Refusal Command := do
  let specs :=
    [helpSpec, jsonSpec, ⟨"dir", some 'd', true, false, false⟩,
      ⟨"lenient", none, false, false, false⟩]
  let a ← sort specs ⟨[], []⟩ none args
  let entry ← a.onlyPath? "ENTRY"
  let directory ← (a.value? "dir").mapM (readPath "dir")
  if a.hasFlag "help" then return .help
  return .compile (← needed "ENTRY" entry) (← needed "dir" directory) (a.hasFlag "lenient")
    (a.hasFlag "json")

/-- The commands that help is given on. -/
def topics : List String := ["index", "resolve", "compile", "help"]

/-- Reads the arguments of `help`: at most one command. -/
def readHelp : List String → Except Refusal Command
  | [] => .ok .help
  | [topic] => if topics.contains topic then .ok .help else .error (.unexpected topic)
  | _ :: s :: _ => .error (.unexpected s)

/-- Reads all arguments. -/
def read : List String → Except Refusal Command
  | [] => .error (.missing "command")
  | s :: r =>
      if s == "index" then readIndex r
      else if s == "resolve" then readResolve r
      else if s == "compile" then readCompile r
      else if s == "help" then readHelp r
      else if s == "--version" || s.startsWith "-V" then .ok .version
      else if s == "--help" || s.startsWith "-h" then .ok .help
      else .error (.unexpected s)

/-- What running the program leaves behind. -/
structure Output where
  status : Nat
  /-- The text for standard output. -/
  stdout : String
  /-- The text for standard error. -/
  stderr : String
deriving DecidableEq, Repr

def programName : String := "exi-schema-resolver"

def programVersion : String := "0.1.0"

/-- How to use the program. -/
def usage : String :=
  "Usage: " ++ programName ++ " <index DIR | resolve DIR | compile ENTRY --dir DIR> [OPTIONS]\n"

/-- Text as lines. -/
def lines (ls : List String) : String := String.join (ls.map (· ++ "\n"))

/-- A namespace as it is listed. -/
def shownNamespace (uri : String) : String := if uri.isEmpty then "(no namespace)" else uri

def listIndex (i : Index) : String :=
  lines (("Index of " ++ i.directory.display ++ " (" ++ toString i.size ++ " entries)") ::
    i.entries.entries.map fun e =>
      "  " ++ shownNamespace e.1 ++ " -> " ++ e.2.path.display)

/-- A schema set as it is listed. -/
def listSet (c : CompiledSet) : String :=
  lines (["✓ Schema set compiled", "  Entry: " ++ c.entry.display,
    "  Documents: " ++ toString c.documents.length,
    "  Components: " ++ toString c.table.size, "  Namespaces:"] ++
    c.namespaces.map fun n => "    " ++ shownNamespace n)

/-- The status and the text of an answer. -/
def listResolution : Resolution → Nat × String
  | .skip => (0, "skip\n")
  | .resolved e => (0, "resolved " ++ e.key.display ++ " -> " ++ e.systemId.display ++ "\n")
  | .unresolved k => (2, "unresolved " ++ k.display ++ "\n")

def statusOf (e : Error) : Nat := if e.isViolation then 3 else 1

def failed (e : Error) : Output := ⟨statusOf e, "", "Error: " ++ e.message ++ "\n"⟩

/-- The output of a command that yields a status and a text. -/
def finished : Except Error (Nat × String) → Output
  | .ok (status, text) => ⟨status, text, ""⟩
  | .error e => failed e

/-- The schema set of an entry document, with the index of a directory as resolver. -/
def compileSet (fs : FileSystem) (entry directory : Path) (lenient : Bool) :
    Except Error (Journal Step Error CompiledSet) := do
  let i ← ((IndexPlan.ofDirectory directory).build fs).outcome
  let setting : Setting := ⟨fs, i.resolver, ⟨!lenient, .standard⟩⟩
  return setting.compile entry

/-- Runs a command. -/
def perform (fs : FileSystem) : Command → Output
  | .help => ⟨0, usage, ""⟩
  | .version => ⟨0, programName ++ " " ++ programVersion ++ "\n", ""⟩
  | .index directory extensions policy json =>
      let plan := { IndexPlan.ofDirectory directory with extensions, policy }
      finished do
        let i ← (plan.build fs).outcome
        return (0, if json then i.toJson.pretty ++ "\n" else listIndex i)
  | .resolve directory uri publicId =>
      finished do
        let i ← ((IndexPlan.ofDirectory directory).build fs).outcome
        return listResolution (i.resolver ⟨uri, publicId, none, none⟩)
  | .compile entry directory lenient json =>
      finished do
        let j ← compileSet fs entry directory lenient
        let c ← j.outcome
        return (0, if json then c.toJson.pretty ++ "\n" else listSet c)

section Places

/-- The path that the location in a request leads to. -/
def requestPlace (r : Request) : Option Path := do
  let base ← (Location.parse (← r.base)).toOption
  let target ← (base.join (← r.literal)).toOption
  target.path?

/-- The paths that a step looks at. -/
def stepPlaces : Step → List Path
  | .asked r a => a.systemId.toList ++ (requestPlace r).toList
  | _ => []

/-- The paths that a command looks at, as far as what it finds there is known. -/
def places (fs : FileSystem) : Command → List Path
  | .help | .version => []
  | .index directory .. | .resolve directory .. => [directory]
  | .compile entry directory lenient _ =>
      directory :: entry ::
        match compileSet fs entry directory lenient with
        | .ok j => j.notes.flatMap stepPlaces
        | .error _ => []

end Places

/-- Runs the program. -/
def run (fs : FileSystem) (args : List String) : Output :=
  match read args with
  | .ok command => perform fs command
  | .error r => ⟨2, "", "error: " ++ r.message ++ "\n\n" ++ usage⟩

end CommandLine
end SchemaSet
