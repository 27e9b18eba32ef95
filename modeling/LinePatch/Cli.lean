import LinePatch.Config
import LinePatch.Response
import LinePatch.SelfCheck

/-!
# The command line

The program takes an optional `-v`/`--verbose` flag and then one command:

* `apply SOURCE PATCH` applies a patch, checked against the source's balances unless
  `--no-validate` (or the options) say otherwise;
* `generate OLD NEW` makes the patch from one file to another;
* `apply-response SOURCE RESPONSE` applies the diff blocks of a response;
* `validate FILE` reports the balances a file breaks;
* `selftest` runs the built-in self check.
-/

namespace LinePatch

variable [Text.Surrogates]

namespace Cli

/-- A command and its arguments. -/
inductive Command where
  | apply (source patch : String)
  | generate (old new : String)
  | applyResponse (source response : String)
  | validate (file : String)
  | selftest

/-- The option values given on the command line. -/
structure Flags where
  output : Option String := none
  policy : Option String := none
  backend : Option String := none
  config : Option String := none
  validate : Option Bool := none
  help : Bool := false

/-- The outcome of a run: exit status, what was printed on each stream, the files
written, and the fault the run stopped on when no command handles it. -/
structure Outcome where
  code : Nat
  stdout : String := ""
  stderr : String := ""
  writes : List (String × String) := []
  crash : Option Fault := none

def usage : Outcome := { code := 2 }

def crashed (f : Fault) : Outcome := { code := 1, crash := some f }

def unifyNewlines : List Char → List Char
  | [] => []
  | '\r' :: '\n' :: rest => '\n' :: unifyNewlines rest
  | '\r' :: rest => '\n' :: unifyNewlines rest
  | c :: rest => c :: unifyNewlines rest

def capturedText : List Char → List Char
  | '\r' :: '\n' :: rest => '\n' :: capturedText rest
  | c :: rest =>
    match Text.surrogateCode? c with
    | some code => '\\' :: 'u' :: Text.hexDigits 4 code ++ capturedText rest
    | none => c :: capturedText rest
  | [] => []

def Outcome.captured (o : Outcome) : Outcome :=
  { o with stdout := String.ofList (capturedText o.stdout.toList),
           stderr := String.ofList (capturedText o.stderr.toList) }

def isEscapeParameter (c : Char) : Bool := c = ';' || c = '?' || c.isDigit

def escapeEnd (cs : List Char) : Option (List Char) :=
  match cs.dropWhile isEscapeParameter with
  | c :: rest => if c.isAlpha then some rest else none
  | [] => none

def stripEscapes : Nat → List Char → List Char
  | 0, cs => cs
  | _ + 1, [] => []
  | fuel + 1, '\x1b' :: '[' :: rest =>
    match escapeEnd rest with
    | some after => stripEscapes fuel after
    | none => '\x1b' :: stripEscapes fuel ('[' :: rest)
  | fuel + 1, c :: rest => c :: stripEscapes fuel rest

def printed (text : String) : String :=
  String.ofList (stripEscapes (text.length + 1) text.toList) ++ "\n"

def pathText (path : String) : String :=
  let parts := (Text.cutAt '/' path.toList).filter fun p => !p.isEmpty && p != ['.']
  let body := "/".intercalate (parts.map String.ofList)
  if path.startsWith "/" then "/" ++ body
  else if body.isEmpty then "."
  else body

def valueOption : String → Option String
  | "--output" | "-o" => some "output"
  | "--policy" => some "policy"
  | "--backend" => some "backend"
  | "--config" | "-c" => some "config"
  | _ => none

def Flags.setValue (f : Flags) (name value : String) : Flags :=
  match name with
  | "output" => { f with output := some value }
  | "policy" => { f with policy := some value }
  | "backend" => { f with backend := some value }
  | _ => { f with config := some value }

/-- What a command accepts: whether it takes the engine options, and whether it takes
`--validate`. -/
structure Accepts where
  engineOptions : Bool
  validateFlag : Bool

def readArgs (acc : Accepts) : Nat → List String → List String → Flags → Option (List String × Flags)
  | 0, _, _, _ => none
  | _ + 1, [], pos, f => some (pos, f)
  | _ + 1, "--" :: rest, pos, f => some (pos ++ rest, f)
  | fuel + 1, a :: rest, pos, f =>
    if a.length > 1 && a.startsWith "-" then
      if a.startsWith "--" then
        let name := String.ofList (a.toList.takeWhile (· ≠ '='))
        let joined : Option String :=
          if a.contains '=' then some (String.ofList ((a.toList.dropWhile (· ≠ '=')).drop 1)) else none
        match valueOption name with
        | some key =>
          if !acc.engineOptions then none
          else
            match joined, rest with
            | some v, _ => readArgs acc fuel rest pos (f.setValue key v)
            | none, v :: more => readArgs acc fuel more pos (f.setValue key v)
            | none, [] => none
        | none =>
          if joined.isSome then none
          else if name == "--help" then readArgs acc fuel rest pos { f with help := true }
          else if acc.validateFlag && name == "--validate" then
            readArgs acc fuel rest pos { f with validate := some true }
          else if acc.validateFlag && name == "--no-validate" then
            readArgs acc fuel rest pos { f with validate := some false }
          else none
      else
        match valueOption (String.ofList (a.toList.take 2)) with
        | some key =>
          if !acc.engineOptions then none
          else
            let attached := String.ofList (a.toList.drop 2)
            if !attached.isEmpty then readArgs acc fuel rest pos (f.setValue key attached)
            else
              match rest with
              | v :: more => readArgs acc fuel more pos (f.setValue key v)
              | [] => none
        | none => none
    else readArgs acc fuel rest (pos ++ [a]) f

def commandShape : String → Option (Accepts × Nat)
  | "apply" => some (⟨true, true⟩, 2)
  | "generate" => some (⟨true, false⟩, 2)
  | "apply-response" => some (⟨true, true⟩, 2)
  | "validate" => some (⟨false, false⟩, 1)
  | "selftest" => some (⟨false, false⟩, 0)
  | _ => none

def commandOf (name : String) (pos : List String) : Command :=
  match name, pos with
  | "apply", [s, p] => .apply s p
  | "generate", [o, n] => .generate o n
  | "apply-response", [s, r] => .applyResponse s r
  | "validate", [f] => .validate f
  | _, _ => .selftest

/-- What a command line asks for. -/
inductive Request where
  /-- Run a command. -/
  | run (cmd : Command) (flags : Flags)
  /-- Show the help of the program, or of a command. -/
  | help (command : Option String)
  /-- A malformed command line. -/
  | malformed

def Command.inputs : Command → List String
  | .apply a b | .generate a b | .applyResponse a b => [a, b]
  | .validate a => [a]
  | .selftest => []

def Request.inputs : Request → List String
  | .run cmd f => cmd.inputs ++ f.config.toList
  | _ => []

def readCommand : List String → Request
  | [] => .malformed
  | name :: args =>
    match commandShape name with
    | none => .malformed
    | some (acc, n) =>
      match readArgs acc (args.length + 1) args [] {} with
      | none => .malformed
      | some (pos, f) =>
        if f.help then .help (some name)
        else if pos.length = n then .run (commandOf name pos) f
        else .malformed

def readRequest (args : List String) : Request :=
  let rec leading (help : Bool) : List String → Request
    | [] => if help then .help none else .malformed
    | "--" :: rest => if help then .help none else readCommand rest
    | a :: rest =>
      if a.length > 1 && a.startsWith "-" then
        if a == "--verbose" then leading help rest
        else if a == "--help" then leading true rest
        else if !a.startsWith "--" && (a.toList.drop 1).all (· = 'v') then leading help rest
        else .malformed
      else if help then .help none
      else readCommand (a :: rest)
  if args.isEmpty then .malformed else leading false args

def programHelp : String :=
  "Usage: fuzzypatch [OPTIONS] COMMAND [ARGS]...\n\n" ++
  "  Apply and generate fuzzy line patches.\n\n" ++
  "Options:\n" ++
  "  -v, --verbose  Log every linking decision.\n" ++
  "  --help         Show this message and exit.\n\n" ++
  "Commands:\n" ++
  "  apply           Apply PATCH to SOURCE.\n" ++
  "  generate        Generate a patch turning OLD into NEW.\n" ++
  "  apply-response  Apply every fenced diff block found in RESPONSE to SOURCE.\n" ++
  "  validate        Report unbalanced brackets and quotes in FILE.\n" ++
  "  selftest        Run the built-in self tests.\n"

def commandHelp (name : String) : String :=
  let (args, summary, engine, validate) : String × String × Bool × Bool :=
    match name with
    | "apply" => ("SOURCE PATCH", "Apply PATCH to SOURCE.", true, true)
    | "generate" => ("OLD NEW", "Generate a patch turning OLD into NEW.", true, false)
    | "apply-response" =>
      ("SOURCE RESPONSE", "Apply every fenced diff block found in RESPONSE to SOURCE.", true, true)
    | "validate" => ("FILE", "Report unbalanced brackets and quotes in FILE.", false, false)
    | _ => ("", "Run the built-in self tests.", false, false)
  "Usage: fuzzypatch " ++ name ++ " [OPTIONS]" ++ (if args.isEmpty then "" else " " ++ args) ++
    "\n\n  " ++ summary ++ "\n\nOptions:\n" ++
    (if engine then
      "  -o, --output PATH               Write the result here instead of stdout.\n" ++
      "  --policy TEXT                   auto, whitespace or indentation.\n" ++
      "  --backend TEXT                  linker or dmp.\n" ++
      "  -c, --config PATH               YAML options file.\n"
     else "") ++
    (if validate then
      "  --validate / --no-validate      Reject results that break bracket or quote balance.\n"
     else "") ++
    "  --help                          Show this message and exit.\n"

/-- The files of a run: a file's text by its path, with line breaks unified. -/
structure Files where
  read : String → Option String

/-- The text of a file, if present, with its line breaks unified. -/
def Files.text (fs : Files) (path : String) : Option String :=
  (fs.read (pathText path)).map fun t => String.ofList (unifyNewlines t.toList)

def components (path : String) : List (List Char) :=
  (Text.cutAt '/' path.toList).filter fun p => !p.isEmpty && p != ['.']

def namesDirectory (path : String) : Bool :=
  (components path).all (· == ['.', '.'])

def Files.input (fs : Files) (path : String) : Except Outcome String :=
  if namesDirectory path then .error (crashed (.pathIsDirectory (pathText path)))
  else
    match fs.text path with
    | some t => .ok t
    | none => .error usage

def Files.writeTarget (fs : Files) (path : String) : Except Fault (Option String) :=
  if namesDirectory path then .error (.pathIsDirectory path)
  else if path.startsWith "/" then .ok none
  else walk true (components path)
where
  /-- Follows the components from the run's directory (`inside`) or from outside it. -/
  walk : Bool → List (List Char) → Except Fault (Option String)
    | _, [] => .error (.pathIsDirectory path)
    | inside, [last] =>
      if last == ['.', '.'] then .error (.pathIsDirectory path)
      else .ok (if inside then some (String.ofList last) else none)
    | inside, c :: rest =>
      if c == ['.', '.'] then walk false rest
      else if inside && (fs.read (String.ofList c)).isSome then .error (.belowAFile path)
      else .error (.noSuchDirectory path)

/-- The options of a run: those of the configuration file or the defaults, with the
command-line values laid over them, checked again. -/
def options (fs : Files) (f : Flags) : Except Fault Options := do
  let base ← match f.config with
    | some c =>
      if namesDirectory c then .error (.pathIsDirectory (pathText c))
      else Options.ofConfig (pathText c) (fs.text c)
    | none => pure {}
  let entries := match base.toSetting with
    | .map kvs => kvs
    | _ => []
  let overlay (key : String) (v : Option Setting) : List (Setting × Setting) → List (Setting × Setting) :=
    fun kvs => match v with
      | some v => kvs.map fun (k, old) => if k.sameKey (.str key) then (k, v) else (k, old)
      | none => kvs
  let entries := overlay "policy" (f.policy.map .str) entries
  let entries := overlay "backend" (f.backend.map .str) entries
  let entries := overlay "validate" (f.validate.map .bool) entries
  Options.ofOverrides (.map entries)

/-- Prints a result, or writes it to the output file and says so. -/
def emit (fs : Files) (f : Flags) (text : String) : Outcome :=
  match f.output with
  | none => { code := 0, stdout := printed text }
  | some o =>
    let o := pathText o
    match fs.writeTarget o with
    | .error fault => crashed fault
    | .ok target =>
      { code := 0, stdout := printed ("Wrote " ++ o), writes := target.toList.map (·, text) }

def finish (fs : Files) (f : Flags) : Except Fault String → Outcome
  | .ok text => emit fs f text
  | .error e =>
    if e.kind.isPatchFault then { code := 1, stderr := printed ("Error: " ++ e.message) }
    else crashed e

def settle : Except Outcome Outcome → Outcome
  | .ok o => o
  | .error o => o

/-- Runs a command on the files present. Input files are read in order, before the
options. -/
def Command.run (fs : Files) (f : Flags) : Command → Outcome
  | .apply source patch => settle do
    let src ← fs.input source
    let pt ← fs.input patch
    pure <| finish fs f do
      let o ← options fs f
      let e ← Engine.ofSettings o.toSetting (some (pathText source))
      if o.validate then e.applyGuarded src pt else e.apply src pt
  | .generate old new => settle do
    let a ← fs.input old
    let b ← fs.input new
    pure <| finish fs f do
      let o ← options fs f
      let e ← Engine.ofSettings o.toSetting (some (pathText old))
      e.generate a b
  | .applyResponse source response => settle do
    let src ← fs.input source
    let r ← fs.input response
    pure <| finish fs f do
      let o ← options fs f
      let e ← Engine.ofSettings o.toSetting (some (pathText source))
      ({ engine := e, maxChars := o.maxDiffChars, validate := o.validate } : Applier).apply src r
  | .validate file => settle do
    let code ← fs.input file
    let name := pathText file
    pure <| match Balance.failing code with
      | [] => { code := 0, stdout := printed (name ++ ": balanced") }
      | broken =>
        { code := 1, stdout := String.join (broken.map fun b => printed (name ++ ": error: " ++ b.message)) }
  | .selftest =>
    match selfCheck with
    | .ok (ok, report) => { code := if ok then 0 else 2, stdout := printed report }
    | .error e => crashed e

end Cli

def runCli (args : List String) (fs : Cli.Files) : Cli.Outcome :=
  match Cli.readRequest args with
  | .run cmd f => cmd.run fs f
  | .help none => { code := 0, stdout := Cli.programHelp }
  | .help (some name) => { code := 0, stdout := Cli.commandHelp name }
  | .malformed => Cli.usage

end LinePatch
