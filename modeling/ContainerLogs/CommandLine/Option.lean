import ContainerLogs.Text.Likeness
import ContainerLogs.Text.Quoted

/-!
Options and operands among the arguments of a command. A long option starts with two dashes and
takes its value after `=` or from the next argument; one-letter options may share a dash. Two
dashes alone end the options.
-/
namespace ContainerLogs.CommandLine

/-- An option of a command, by its full name. -/
structure OptionForm where
  name : String
  letter : Option Char := none
  takesValue : Bool := false
  deriving DecidableEq, Repr

/-- What is wrong with the form of the arguments. -/
inductive OptionFault where
  | unknown (name : String) (suggestions : List String := [])
  | valueMissing (name : String)
  | valueUnwanted (name : String)
  deriving DecidableEq, Repr

/-- What a misspelt name may have been meant for. -/
def suggestionNote : List String → String
  | [] => ""
  | [name] => " Did you mean " ++ Text.quoted name ++ "?"
  | names => " (Did you mean one of: " ++ ", ".intercalate (names.map Text.quoted) ++ "?)"

def OptionFault.message : OptionFault → String
  | unknown name suggestions =>
      "No such option " ++ Text.quoted name ++ "." ++ suggestionNote suggestions
  | valueMissing name => "Option " ++ Text.quoted name ++ " requires an argument."
  | valueUnwanted name => "Option " ++ Text.quoted name ++ " does not take a value."

/-- The options given, in order, each with its value, and the operands. -/
structure Given where
  options : List (String × String) := []
  operands : List String := []
  deriving DecidableEq, Repr

namespace Given

def addOption (name value : String) (given : Given) : Given :=
  { given with options := (name, value) :: given.options }

def addOperand (operand : String) (given : Given) : Given :=
  { given with operands := operand :: given.operands }

def has (given : Given) (name : String) : Bool := given.options.any (·.1 = name)

/-- The values of an option, in order. -/
def values (given : Given) (name : String) : List String :=
  (given.options.filter (·.1 = name)).map (·.2)

/-- The value of an option; of several the last one counts. -/
def value? (given : Given) (name : String) : Option String := (given.values name).getLast?

def value (given : Given) (name : String) : String := (given.value? name).getD ""

end Given

/-- Whether operands may stand before options. -/
inductive Order where
  | mixed
  /-- The first operand ends the options. -/
  | optionsFirst
  deriving DecidableEq, Repr

def isOption : List Char → Bool
  | '-' :: _ :: _ => true
  | _ => false

/-- The name of a long option and the value after its first `=`. -/
def splitValue (argument : List Char) : String × Option String :=
  let name := String.ofList (argument.takeWhile (· ≠ '='))
  match argument.dropWhile (· ≠ '=') with
  | [] => (name, none)
  | _ :: value => (name, some (String.ofList value))

/-- The options that letters stand for. -/
def letterOptions (forms : List OptionForm) (letters : List Char) :
    Except OptionFault (List String) :=
  letters.mapM fun letter =>
    match forms.find? (·.letter = some letter) with
    | some form => .ok form.name
    | none => .error (.unknown (String.ofList ['-', letter]))

/-- Sorts arguments into options and operands. -/
def sortArguments (forms : List OptionForm) (order : Order) :
    List String → Except OptionFault Given
  | [] => .ok {}
  | argument :: rest =>
      if argument = "--" then .ok { operands := rest }
      else if isOption argument.toList then
        let (name, value?) := splitValue argument.toList
        match forms.find? (·.name = name), value? with
        | some form, some value =>
            if form.takesValue then (sortArguments forms order rest).map (·.addOption name value)
            else .error (.valueUnwanted name)
        | some form, none =>
            if form.takesValue then
              match rest with
              | [] => .error (.valueMissing name)
              | value :: rest => (sortArguments forms order rest).map (·.addOption name value)
            else (sortArguments forms order rest).map (·.addOption name "")
        | none, _ =>
            if argument.toList.take 2 = ['-', '-'] then
              .error (.unknown name (Text.Likeness.suggestions (forms.map (·.name)) name))
            else match letterOptions forms (argument.toList.drop 1) with
              | .error fault => .error fault
              | .ok names =>
                  (sortArguments forms order rest).map fun given =>
                    names.foldr (fun name given => given.addOption name "") given
      else match order with
        | .mixed => (sortArguments forms order rest).map (·.addOperand argument)
        | .optionsFirst => .ok { operands := argument :: rest }

end ContainerLogs.CommandLine
