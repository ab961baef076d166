/-!
The command line: a target, the identifier of a job, and options.

Words are taken in order. A word that begins with two hyphens names an option, of which some take a
value: behind an equals sign, or as the next word if that does not begin with a hyphen. A lone
hyphen is an operand. After a word of two hyphens every word is an operand. A value is looked at
when the next thing that makes sense is met, so a word that makes none is reported before a bad
value that stands right in front of it.
-/

namespace JobWatch

/-- What the program is asked to do. -/
structure CommandLine where
  target : String
  jobId : String
  /-- Records are written in place of the live display. -/
  json : Bool := false
  noColor : Bool := false
  debug : Bool := false
  config : Option String := none
  logFile : Option String := none
  deriving Repr, DecidableEq

namespace CommandLine

/-- Why there is nothing to run. -/
inductive Stop where
  | help
  | version
  | missingOperand
  | missingValue
  | unwantedValue
  | repeated
  | unknown
  deriving Repr, DecidableEq

/-- Help and version are what was asked for; the rest is misuse. -/
def Stop.exitCode : Stop → Nat
  | help | version => 0
  | _ => 2

/-- Options without a value. -/
inductive Switch where
  | json
  | noColor
  | debug
  deriving Repr, DecidableEq

/-- Options with a value. -/
inductive Setting where
  | config
  | logFile
  deriving Repr, DecidableEq

inductive Opt where
  | switch (s : Switch)
  | setting (s : Setting)
  | help
  | version
  deriving Repr, DecidableEq

def Opt.ofName? : String → Option Opt
  | "json" => some (.switch .json)
  | "no-color" => some (.switch .noColor)
  | "debug" => some (.switch .debug)
  | "config" => some (.setting .config)
  | "log-file" => some (.setting .logFile)
  | "help" => some .help
  | "version" => some .version
  | _ => none

def Opt.ofLetter? : Char → Option Opt
  | 'h' => some .help
  | 'V' => some .version
  | _ => none

inductive Word where
  | separator
  | long (name : String) (value : Option String)
  /-- One hyphen and letters, of which the first decides. -/
  | short (letter : Char)
  | operand (s : String)
  deriving Repr, DecidableEq

def Word.ofString (s : String) : Word :=
  match s.toList with
  | ['-', '-'] => separator
  | '-' :: '-' :: cs =>
    let name := String.ofList (cs.takeWhile (· ≠ '='))
    match cs.dropWhile (· ≠ '=') with
    | _ :: value => long name (some (String.ofList value))
    | [] => long name none
  | '-' :: c :: _ => short c
  | _ => operand s

/-- What was taken so far. -/
structure Draft where
  operands : List String := []
  switches : List Switch := []
  settings : List (Setting × String) := []
  /-- An option whose value has not been looked at, or has not come. -/
  pending : Option (Setting × Option String) := none
  /-- Every further word is an operand. -/
  separated : Bool := false
  deriving Repr, DecidableEq

namespace Draft

def get? (d : Draft) (s : Setting) : Option String := (d.settings.find? (·.1 = s)).map (·.2)

/-- Gives an option its value; it must not be empty. -/
def put (d : Draft) (s : Setting) (value : String) : Except Stop Draft :=
  if (d.get? s).isSome then .error .repeated
  else if value = "" then .error .missingValue
  else .ok { d with settings := d.settings ++ [(s, value)] }

/-- Looks at the value that is pending. -/
def settle (d : Draft) : Except Stop Draft :=
  match d.pending with
  | none => .ok d
  | some (_, none) => .error .missingValue
  | some (s, some value) => { d with pending := none }.put s value

/-- An option without anything attached. -/
def option (d : Draft) (o : Opt) : Except Stop Draft := do
  let d ← d.settle
  match o with
  | .help => .error .help
  | .version => .error .version
  | .setting s => .ok { d with pending := some (s, none) }
  | .switch s =>
    if s ∈ d.switches then .error .repeated else .ok { d with switches := s :: d.switches }

/-- An option with a value behind its equals sign. -/
def assign (d : Draft) (o : Opt) (value : String) : Except Stop Draft :=
  match o with
  | .setting s => do (← d.settle).put s value
  | _ => .error .unwantedValue

/-- An operand; there is room for two. -/
def operand (d : Draft) (s : String) : Except Stop Draft :=
  if d.operands.length < 2 then do
    let d ← d.settle
    .ok { d with operands := d.operands ++ [s] }
  else .error .unknown

/-- Takes a word. -/
def take (d : Draft) (s : String) : Except Stop Draft :=
  if d.separated then d.operand s
  else
    match Word.ofString s, d.pending with
    | .separator, _ => .ok { d with separated := true }
    | .long name value, _ =>
      match Opt.ofName? name, value with
      | none, _ => .error .unknown
      | some o, none => d.option o
      | some o, some value => d.assign o value
    | .short letter, _ =>
      match Opt.ofLetter? letter with
      | none => .error .unknown
      | some o => d.option o
    | .operand s, some (option, none) => .ok { d with pending := some (option, some s) }
    | .operand s, _ => d.operand s

/-- The end of the words. The environment may name a configuration, which counts if no word does. -/
def finish (d : Draft) (configVariable : Option String) : Except Stop CommandLine := do
  let d ← d.settle
  let d ← match d.get? .config, configVariable with
    | none, some value => d.put .config value
    | _, _ => .ok d
  match d.operands with
  | [target, jobId] =>
    .ok
      { target, jobId, json := .json ∈ d.switches, noColor := .noColor ∈ d.switches
        debug := .debug ∈ d.switches, config := d.get? .config, logFile := d.get? .logFile }
  | _ => .error .missingOperand

end Draft

/-- Reads the words behind the program's name. -/
def parse (configVariable : Option String) (words : List String) : Except Stop CommandLine := do
  let d ← words.foldlM Draft.take {}
  d.finish configVariable

/-- A word and its explanation, which begins in a column. The lines of an explanation keep to it. -/
def row (column : Nat) (word explanation : String) : String :=
  word ++ String.ofList (List.replicate (column - word.length) ' ') ++
    String.ofList (explanation.toList.flatMap fun c =>
      if c = '\n' then '\n' :: List.replicate column ' ' else [c])

def operandRows : List String :=
  let mark := String.ofList [Char.ofNat 0x60]
  [row 12 "  <TARGET>" ("Server alias from the config file (e.g. " ++ mark ++ "myminio/" ++ mark ++
      ") or an http(s) URL"),
    row 12 "  <JOB_ID>" "Identifier of the batch job to watch"]

def optionRows (configVariable : Option String) : List String :=
  [row 25 "      --json" "Emit one JSON record per metrics tick instead of the live display",
    row 25 "      --no-color" "Disable colored output",
    row 25 "      --config <PATH>"
      ("Alias configuration file [env: BATCHWATCH_CONFIG=" ++ configVariable.getD "" ++ "]"),
    row 25 "      --log-file <PATH>" "Append logs to this file instead of stderr",
    row 25 "      --debug" "Log at debug level",
    row 25 "  -h, --help" "Print help",
    row 25 "  -V, --version" "Print version"]

def usage : String := "Usage: batchwatch [OPTIONS] <TARGET> <JOB_ID>"

def examples : List String :=
  ["  1. Display current in-progress JOB events.",
    "     batchwatch myminio/ KwSysDpxcBU9FNhGkn2dCf",
    "  2. Print one JSON record per second until the job finishes.",
    "     batchwatch --json myminio/ KwSysDpxcBU9FNhGkn2dCf"]

/-- The help; it shows the value of the variable that names a configuration. -/
def helpText (configVariable : Option String) : String :=
  let lines := ["Summarize batch job events on an object storage server in real time", "", usage,
    "", "Arguments:"] ++ operandRows ++ ["", "Options:"] ++ optionRows configVariable ++
    ["", "EXAMPLES:"] ++ examples
  String.join (lines.map (· ++ "\n"))

def versionText : String := "batchwatch 0.1.0\n"

/-- What is told to the user when there is nothing to run. -/
def Stop.text (configVariable : Option String) : Stop → String
  | help => helpText configVariable
  | version => versionText
  | missingOperand => complaint "the target and the identifier of a job are required"
  | missingValue => complaint "an option needs a value"
  | unwantedValue => complaint "an option takes no value"
  | repeated => complaint "an option cannot be used several times"
  | unknown => complaint "unexpected argument"
where
  complaint (s : String) : String :=
    "error: " ++ s ++ "\n\n" ++ usage ++ "\n\nFor more information, try '--help'.\n"

end CommandLine

end JobWatch
