import ApiForge.Command.Arguments
import ApiForge.Decimal.Numeral
import ApiForge.Document.Value

/-!
# Invocations

What the command line asks for: one of the commands with its options, the
version, or help.
-/

namespace ApiForge

/-- What holds for every command. -/
structure GlobalOptions where
  json : Bool
  isColorless : Bool
  isQuiet : Bool
  isVerbose : Bool
  deriving DecidableEq, Repr

structure GenerateOptions where
  source : Text
  outputRoot : Option Text
  name : Option Text
  docsOnly : Bool
  docs : Option Bool
  timeout : Option Binary64
  dereference : Option Bool
  deriving DecidableEq, Repr

structure InspectOptions where
  source : Text
  timeout : Option Binary64
  dereference : Option Bool
  deriving DecidableEq, Repr

inductive Request where
  | generate (options : GenerateOptions)
  | list (outputRoot : Option Text)
  | inspect (options : InspectOptions)
  deriving DecidableEq, Repr

inductive Invocation where
  | request (options : GlobalOptions) (request : Request)
  | version
  | help
  | misuse
  deriving DecidableEq, Repr

namespace Invocation

def flag (name : Text) : OptionForm :=
  ⟨name, none, false⟩

def helpForm : OptionForm :=
  flag "--help"

def outputForm : OptionForm :=
  ⟨"--output", 'o', true⟩

def timeoutForm : OptionForm :=
  ⟨"--timeout", none, true⟩

def globalForms : List OptionForm :=
  [flag "--version", flag "--json", flag "--no-color", ⟨"--quiet", 'q', false⟩,
    ⟨"--verbose", 'v', false⟩, helpForm]

def dereferenceForms : List OptionForm :=
  [flag "--dereference", flag "--no-dereference"]

def generateForms : List OptionForm :=
  [outputForm, ⟨"--name", 'n', true⟩, flag "--docs-only", flag "--docs", flag "--no-docs",
    timeoutForm, helpForm] ++ dereferenceForms

def listForms : List OptionForm :=
  [outputForm, helpForm]

def inspectForms : List OptionForm :=
  [timeoutForm, helpForm] ++ dereferenceForms

/-- The number given to an option; there is no invocation if it is none. -/
def numberOf? (arguments : Arguments) (name : Text) : Option (Option Binary64) :=
  match arguments.value? name with
  | none => some none
  | some text => (Numeral.float? text).map some

/-- The single argument of a command. -/
def single? : List Text → Option Text
  | [argument] => some argument
  | _ => none

def dereferenceIn (arguments : Arguments) : Option Bool :=
  arguments.choice? "--dereference" "--no-dereference"

def generate? (arguments : Arguments) : Option Request := do
  let timeout ← numberOf? arguments "--timeout"
  let source ← single? arguments.others
  some (.generate
    { source
      outputRoot := arguments.value? "--output"
      name := arguments.value? "--name"
      docsOnly := arguments.has "--docs-only"
      docs := arguments.choice? "--docs" "--no-docs"
      timeout
      dereference := dereferenceIn arguments })

def list? (arguments : Arguments) : Option Request :=
  if arguments.others.isEmpty then some (.list (arguments.value? "--output")) else none

def inspect? (arguments : Arguments) : Option Request := do
  let timeout ← numberOf? arguments "--timeout"
  let source ← single? arguments.others
  some (.inspect { source, timeout, dereference := dereferenceIn arguments })

/-- The forms of a command's options and how its request is read. -/
def commandOf? (name : Text) : Option (List OptionForm × (Arguments → Option Request)) :=
  if name = "generate" then some (generateForms, generate?)
  else if name = "list" then some (listForms, list?)
  else if name = "inspect" then some (inspectForms, inspect?)
  else none

def globalOptions (arguments : Arguments) : GlobalOptions :=
  { json := arguments.has "--json"
    isColorless := arguments.has "--no-color"
    isQuiet := arguments.has "--quiet"
    isVerbose := arguments.has "--verbose" }

/-- The request for a command with its arguments. -/
def ofCommand (options : GlobalOptions) (name : Text) (rest : List Text) : Invocation :=
  match commandOf? name with
  | none => .misuse
  | some (forms, readRequest?) =>
      match Arguments.read? forms true rest with
      | none => .misuse
      | some arguments =>
          if arguments.has "--help" then .help
          else
            match readRequest? arguments with
            | some asked => .request options asked
            | none => .misuse

/-- The first option that asks about the program instead of for its work. -/
def question? (arguments : Arguments) : Option Invocation :=
  arguments.given.findSome? fun (name, _) =>
    if name = "--version" then some .version
    else if name = "--help" then some .help
    else none

/-- What the arguments of the program ask for. -/
def read (arguments : List Text) : Invocation :=
  match Arguments.read? globalForms false arguments with
  | none => .misuse
  | some globals =>
      match question? globals with
      | some answer => answer
      | none =>
          match globals.others with
          | [] => .misuse
          | name :: rest => ofCommand (globalOptions globals) name rest

end Invocation

namespace Request

/-- The setting of this name, if it was chosen. -/
def setting (name : Text) (value : Option Value) : Entries :=
  match value with
  | some value => [(.str name, value)]
  | none => []

/-- The settings that a request chooses. -/
def settings : Request → Entries
  | .generate options =>
      setting "output_dir" (options.outputRoot.map .str) ++
        setting "timeout" (options.timeout.map .float) ++
        setting "dereference" (options.dereference.map .bool) ++
        setting "docs" (options.docs.map .bool)
  | .list outputRoot => setting "output_dir" (outputRoot.map .str)
  | .inspect options =>
      setting "timeout" (options.timeout.map .float) ++
        setting "dereference" (options.dereference.map .bool)

end Request

end ApiForge
