import ApiForge.Text.Keyed

/-!
# Arguments

Options come with two dashes and a name, or with one dash and a letter. A value
follows its option as the next argument, after an equals sign or right after the
letter; letters without values may share a dash. Two dashes alone end the
options.
-/

namespace ApiForge

/-- An option under all its names, the first of which stands for it. -/
structure OptionForm where
  name : Text
  letter : Option Char
  takesValue : Bool
  deriving DecidableEq, Repr

/-- What the arguments say: the options in order, each with its value, and the rest. -/
structure Arguments where
  given : List (Text × Text)
  others : List Text
  deriving DecidableEq, Repr

namespace Arguments

/-- The options that one argument gives, and the option whose value is the next argument. -/
structure Reading where
  given : List (Text × Text)
  waiting : Option Text

/-- An option by its name, perhaps with a value after an equals sign. -/
def readNamed? (form : OptionForm) : Option Text → Option Reading
  | some value => if form.takesValue then some ⟨[(form.name, value)], none⟩ else none
  | none =>
      if form.takesValue then some ⟨[], some form.name⟩
      else some ⟨[(form.name, [])], none⟩

/-- Options by their letters. -/
def readLetters? (forms : List OptionForm) : Text → Option Reading
  | [] => some ⟨[], none⟩
  | letter :: rest => do
      let form ← forms.find? (·.letter == some letter)
      if form.takesValue then
        if rest.isEmpty then some ⟨[], some form.name⟩ else some ⟨[(form.name, rest)], none⟩
      else
        let reading ← readLetters? forms rest
        some { reading with given := (form.name, []) :: reading.given }

/-- An argument that begins with a dash and is longer than it. -/
def readOptions? (forms : List OptionForm) (argument : Text) : Option Reading :=
  let (name, value) := argument.cutAt '='
  match forms.find? (·.name == name) with
  | some form => readNamed? form value
  | none => if argument.startsWith "--" then none else readLetters? forms (argument.drop 1)

def isOption (argument : Text) : Bool :=
  argument.startsWith ['-'] && 1 < argument.length

/-- Adds what one argument gives in front. -/
def withGiven (given : List (Text × Text)) (arguments : Arguments) : Arguments :=
  { arguments with given := given ++ arguments.given }

def withOther (other : Text) (arguments : Arguments) : Arguments :=
  { arguments with others := other :: arguments.others }

/-- Reads arguments; `waiting` is the option whose value comes first. Unless options may stand
behind other arguments, the first of those ends them. -/
def readFrom? (forms : List OptionForm) (mayMix : Bool) :
    Option Text → List Text → Option Arguments
  | some _, [] => none
  | none, [] => some ⟨[], []⟩
  | some name, value :: rest => (readFrom? forms mayMix none rest).map (withGiven [(name, value)])
  | none, argument :: rest =>
      if argument = ['-', '-'] then some ⟨[], rest⟩
      else if isOption argument then
        match readOptions? forms argument with
        | some reading => (readFrom? forms mayMix reading.waiting rest).map (withGiven reading.given)
        | none => none
      else if mayMix then (readFrom? forms mayMix none rest).map (withOther argument)
      else some ⟨[], argument :: rest⟩

def read? (forms : List OptionForm) (mayMix : Bool) (arguments : List Text) : Option Arguments :=
  readFrom? forms mayMix none arguments

/-- The option was given. -/
def has (arguments : Arguments) (name : Text) : Bool :=
  arguments.given.any (·.1 == name)

/-- The last value given to an option. -/
def value? (arguments : Arguments) (name : Text) : Option Text :=
  Keyed.find? name arguments.given.reverse

/-- Which of two opposite options was given last. -/
def choice? (arguments : Arguments) (yes no : Text) : Option Bool :=
  (arguments.given.reverse.find? fun option => option.1 == yes || option.1 == no).map (·.1 == yes)

end Arguments

end ApiForge
