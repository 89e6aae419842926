namespace PointSelect.Command

/-- The options of a command line. -/
inductive Flag where
  | version
  | logLevel
  | config
  | points
  | selection
  | pattern
  | search
  | output
  deriving DecidableEq

namespace Flag

def takesValue : Flag → Bool
  | version | search => false
  | _ => true

def ofName? (name : String) : Option Flag :=
  if name = "version" then some version
  else if name = "log-level" then some logLevel
  else if name = "config" then some config
  else if name = "points" then some points
  else if name = "selection" then some selection
  else if name = "pattern" then some pattern
  else if name = "search" then some search
  else if name = "output" then some output
  else none

def ofLetter? : Char → Option Flag
  | 'V' => some version
  | 'c' => some config
  | 'p' => some points
  | 's' => some selection
  | 'e' => some pattern
  | 'o' => some output
  | _ => none

end Flag

/-- A part of a command line. -/
inductive Token where
  /-- An option with its value; one that takes none has the empty text. -/
  | option (flag : Flag) (value : String)
  | word (s : String)
  /-- Two hyphens, after which no option follows. -/
  | endOfOptions
  | unknown
  deriving DecidableEq

/-- What one argument says: a token, or an option whose value is the next argument. -/
inductive Argument where
  | complete (token : Token)
  | awaiting (flag : Flag)
  deriving DecidableEq

namespace Argument

/-- An option by its name, with its value after an equals sign. -/
def ofNamed (cs : List Char) : Argument :=
  match Flag.ofName? (String.ofList (cs.takeWhile (· ≠ '='))), cs.dropWhile (· ≠ '=') with
  | none, _ => complete .unknown
  | some flag, [] => if flag.takesValue then .awaiting flag else complete (.option flag "")
  | some flag, _ :: value =>
    complete (if flag.takesValue then .option flag (String.ofList value) else .unknown)

/-- An option by its letter, with its value right after it or after an equals sign. -/
def ofLettered (c : Char) (cs : List Char) : Argument :=
  match Flag.ofLetter? c with
  | none => complete .unknown
  | some flag =>
    if !flag.takesValue then complete (.option flag "")
    else match cs with
      | [] => .awaiting flag
      | '=' :: value => complete (.option flag (String.ofList value))
      | value => complete (.option flag (String.ofList value))

def read (s : String) : Argument :=
  match s.toList with
  | ['-', '-'] => complete .endOfOptions
  | '-' :: '-' :: cs => ofNamed cs
  | '-' :: c :: cs => ofLettered c cs
  | _ => complete (.word s)

end Argument

namespace Token

/-- The tokens of a command line. A value of its own does not look like an option. -/
def ofArguments : List String → List Token
  | [] => []
  | s :: rest =>
    match Argument.read s with
    | .complete token => token :: ofArguments rest
    | .awaiting flag => match rest with
      | [] => [.unknown]
      | value :: rest =>
        if Argument.read value = .complete (.word value) then
          .option flag value :: ofArguments rest
        else [.unknown]

end Token

end PointSelect.Command
