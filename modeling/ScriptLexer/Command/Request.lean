/-
ScriptLexer.Command.Request — what the command line asks for.

The arguments are read from left to right, and the first thing that is
wrong or asks for the version settles the matter. Options may stand
anywhere before `--`; the first other argument is the task and the rest are
files. An option of a task may be given once. The two flags that every task
has may be given once before the task and once after it, and what a flag
switches on an environment variable may switch on too.

Asking for help is left out. What `--help`, `-h` and `help` print is the
argument parser's own text, with the exit code 0; here they are read like any
unknown option or task and come to `misuse`.
-/

namespace ScriptLexer.Command

/-! ## Requests -/

/-- The layouts of a token listing. -/
inductive Format where
  | text
  | json
  deriving DecidableEq, Repr

/-- The layout with a given name. -/
def Format.ofName? : String → Option Format
  | "text" => some text
  | "json" => some json
  | _ => none

/-- The first word of a task. -/
inductive Verb where
  | tokens
  | check
  | roundtrip
  deriving DecidableEq, Repr

/-- How a verb is written. -/
def Verb.name : Verb → String
  | tokens => "tokens"
  | check => "check"
  | roundtrip => "roundtrip"

/-- The verb that is written so. -/
def Verb.ofName? : String → Option Verb
  | "tokens" => some tokens
  | "check" => some check
  | "roundtrip" => some roundtrip
  | _ => none

/-- What is done with each file. -/
inductive Task where
  /-- List its tokens. -/
  | tokens (format : Format) (skipTrivia : Bool)
  /-- Say whether it lexes. -/
  | check
  /-- Say whether its tokens give the text back. -/
  | roundtrip
  deriving DecidableEq, Repr

/-- A task, the files it is done with, and how its progress is logged. -/
structure Request where
  task : Task
  files : List String
  verbose : Bool
  color : Bool
  deriving DecidableEq, Repr

/-- What a command line comes to, if it does not ask for help. -/
inductive Invocation where
  | run (request : Request)
  | version (verb? : Option Verb)
  | misuse
  deriving DecidableEq, Repr

/-! ## Arguments -/

/-- Why no more arguments are read. -/
inductive Stop where
  | misuse
  | version (verb? : Option Verb)
  deriving DecidableEq, Repr

/-- What the next argument may be. -/
inductive Expected where
  | anything
  | format
  | file
  deriving DecidableEq, Repr

/-- Where a flag has been given: before the verb, after it, or both. -/
structure Places where
  before : Bool
  after : Bool
  deriving DecidableEq, Repr

namespace Places

/-- The places of a flag that has not been given. -/
def nowhere : Places := ⟨false, false⟩

/-- The places of a flag that is given once more, behind the verb or not. A
flag may be given once in each place. -/
def add (p : Places) (behind : Bool) : Except Stop Places :=
  if behind then
    if p.after then .error .misuse else .ok { p with after := true }
  else
    if p.before then .error .misuse else .ok { p with before := true }

/-- The setting of a flag, when its variable is set to `value?`. The flag
wins over the variable, and one that is given in both places leaves the
variable unread; one that is read must say `true` or `false`. -/
def setting? (p : Places) (value? : Option String) : Option Bool :=
  if p.before && p.after then some true
  else
    match value? with
    | none => some (p.before || p.after)
    | some "true" => some true
    | some "false" => some (p.before || p.after)
    | some _ => none

end Places

/-- What the arguments have said so far. The last file comes first. -/
structure Draft where
  verbose : Places
  noColor : Places
  verb? : Option Verb
  format? : Option Format
  skipTrivia : Bool
  files : List String
  expected : Expected
  deriving DecidableEq, Repr

namespace Draft

/-- The draft before any argument. -/
def blank : Draft := ⟨.nowhere, .nowhere, none, none, false, [], .anything⟩

/-- The draft with the log switched on. -/
def setVerbose (d : Draft) : Except Stop Draft := do
  return { d with verbose := ← d.verbose.add d.verb?.isSome }

/-- The draft with colors switched off. -/
def setNoColor (d : Draft) : Except Stop Draft := do
  return { d with noColor := ← d.noColor.add d.verb?.isSome }

/-- The draft with trivia left out of listings. -/
def setSkipTrivia (d : Draft) : Except Stop Draft :=
  if d.skipTrivia ∨ d.verb? ≠ some .tokens then .error .misuse
  else .ok { d with skipTrivia := true }

/-- The draft with the layout of that name. -/
def setFormat (d : Draft) (name : String) : Except Stop Draft :=
  match Format.ofName? name with
  | none => .error .misuse
  | some format => .ok { d with format? := some format, expected := .anything }

/-- The option that sets the layout. Its value is `value?`, or else the next
argument. -/
def openFormat (d : Draft) (value? : Option String) : Except Stop Draft :=
  if d.format?.isSome ∨ d.verb? ≠ some .tokens then .error .misuse
  else
    match value? with
    | some value => d.setFormat value
    | none => .ok { d with expected := .format }

/-- The draft with one more file. -/
def addFile (d : Draft) (name : String) : Except Stop Draft :=
  if name = "" ∨ d.verb? = none then .error .misuse
  else .ok { d with files := name :: d.files }

/-- The draft after an argument that is no option. -/
def addOperand (d : Draft) (word : String) : Except Stop Draft :=
  match d.verb?, Verb.ofName? word with
  | some _, _ => d.addFile word
  | none, some verb => .ok { d with verb? := some verb }
  | none, none => .error .misuse

/-- The draft after the letters of an argument with one dash. The letter of
the layout takes what follows it as its value, with or without `=`. -/
def readLetters (d : Draft) : List Char → Except Stop Draft
  | [] => .ok d
  | 'v' :: cs => do (← d.setVerbose).readLetters cs
  | 'V' :: _ => .error (.version d.verb?)
  | ['f'] => d.openFormat none
  | 'f' :: '=' :: cs => d.openFormat (some (String.ofList cs))
  | 'f' :: cs => d.openFormat (some (String.ofList cs))
  | _ => .error .misuse

/-- The draft after a word with two dashes, and the value written after its
`=`, if there is one. -/
def readLong (d : Draft) (word : String) (value? : Option String) : Except Stop Draft :=
  match word, value? with
  | "verbose", none => d.setVerbose
  | "no-color", none => d.setNoColor
  | "skip-trivia", none => d.setSkipTrivia
  | "version", none => .error (.version d.verb?)
  | "format", value? => d.openFormat value?
  | _, _ => .error .misuse

/-- A word cut at its first `=`. -/
def cut (cs : List Char) : String × Option String :=
  (String.ofList (cs.takeWhile (· != '=')),
    match cs.dropWhile (· != '=') with
    | [] => none
    | _ :: value => some (String.ofList value))

/-- The draft after one more argument. -/
def read (d : Draft) (arg : String) : Except Stop Draft :=
  match d.expected with
  | .format => d.setFormat arg
  | .file => d.addFile arg
  | .anything =>
    match arg.toList with
    | ['-', '-'] => .ok { d with expected := .file }
    | '-' :: '-' :: cs => d.readLong (cut cs).1 (cut cs).2
    | '-' :: c :: cs => d.readLetters (c :: cs)
    | _ => d.addOperand arg

end Draft

/-! ## The whole command line -/

/-- The values of the two environment variables that are set. -/
structure Environment where
  verbose? : Option String
  noColor? : Option String
  deriving DecidableEq, Repr

/-- The name of the variable for the log. -/
def Environment.verboseName : String := "MACAL_LEX_VERBOSE"

/-- The name of the variable for colors. -/
def Environment.noColorName : String := "MACAL_LEX_NO_COLOR"

/-- The task that a verb and its options name. -/
def Verb.task (verb : Verb) (format? : Option Format) (skipTrivia : Bool) : Task :=
  match verb with
  | tokens => .tokens (format?.getD .text) skipTrivia
  | check => .check
  | roundtrip => .roundtrip

/-- The request of a complete draft. A verb and a file are required, and an
option may not be left without its value. -/
def Draft.request? (d : Draft) (environment : Environment) : Option Request := do
  let verb ← d.verb?
  let verbose ← d.verbose.setting? environment.verbose?
  let noColor ← d.noColor.setting? environment.noColor?
  if d.expected = .format ∨ d.files = [] then none
  else
    some {
      task := verb.task d.format? d.skipTrivia
      files := d.files.reverse
      verbose
      color := !noColor }

/-- What the arguments and the environment come to. -/
def Invocation.ofArguments (args : List String) (environment : Environment) : Invocation :=
  match args.foldlM Draft.read Draft.blank with
  | .error .misuse => misuse
  | .error (.version verb?) => version verb?
  | .ok d =>
    match d.request? environment with
    | none => misuse
    | some request => run request

end ScriptLexer.Command
