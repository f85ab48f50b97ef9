import SentinelRounds.Text.Split

/-! Command lines: parameters with and without values, and commands that go on with parameters of
their own. -/

namespace SentinelRounds

/-- A parameter, given as `--long`, or as `-s` by its letter. -/
structure Parameter where
  long : String
  short : Option Char := none
  /-- Which values the parameter takes, if it takes any. -/
  accepts : Option (String → Bool) := none
  /-- Whether the parameter may be given several times. -/
  repeats : Bool := false

/-- Why a command line runs nothing. -/
inductive Stop
  /-- It asks for help, or for the version. -/
  | shown
  | misused
  deriving DecidableEq, Repr

/-- What has been given so far. -/
structure Given where
  /-- The parameters, with empty text for one without a value, in the order in which they stand. -/
  values : List (String × String) := []
  /-- A parameter that has not been checked yet, and its value once it has been read. -/
  pending : Option (Parameter × Option String) := none

namespace Given

/-- Whether a parameter has been given. -/
def has (given : Given) (long : String) : Bool := given.values.any fun (other, _) => other == long

/-- The value of a parameter. -/
def value? (given : Given) (long : String) : Option String := given.values.lookup long

/-- All values of a parameter. -/
def all (given : Given) (long : String) : List String :=
  given.values.filterMap fun (other, value) => if other == long then some value else none

/-- Takes a parameter in, if it has a value it accepts and has not been given before. -/
def take (given : Given) (parameter : Parameter) (value : Option String) : Except Stop Given :=
  let fits := match parameter.accepts, value with
    | none, none => true
    | some accepts, some value => accepts value
    | _, _ => false
  if !fits || (given.has parameter.long && !parameter.repeats) then .error .misused
  else .ok { given with values := given.values ++ [(parameter.long, value.getD "")] }

/-- Takes in what is pending. -/
def settle (given : Given) : Except Stop Given :=
  match given.pending with
  | none => .ok given
  | some (parameter, value) => { given with pending := none }.take parameter value

/-- Whether the pending parameter still has no value. -/
def isWaiting (given : Given) : Bool :=
  match given.pending with
  | some (_, none) => true
  | _ => false

end Given

/-- What may stand on one level of a command line. -/
structure Grammar where
  parameters : List Parameter
  commands : List String := []
  /-- The parameters that only show something. -/
  shows : List Parameter

namespace Grammar

/--
Goes on by a parameter and perhaps a value that is attached to it; a parameter that still needs a
value waits for it.
-/
def apply (grammar : Grammar) (isNamed : Parameter → Bool) (attached : Option String)
    (given : Given) : Except Stop Given :=
  if grammar.shows.any isNamed then
    if attached.isSome then .error .misused
    else
      match given.settle with
      | .ok _ => .error .shown
      | .error stop => .error stop
  else
    match grammar.parameters.find? isNamed with
    | none => .error .misused
    | some parameter => do
      let given ← given.settle
      match parameter.accepts, attached with
      | some _, none => pure { given with pending := some (parameter, none) }
      | _, attached => given.take parameter attached

/-- Whether a parameter that goes by a letter takes a value. -/
def takesValue (grammar : Grammar) (letter : Char) : Bool :=
  grammar.parameters.any fun parameter =>
    parameter.short == some letter && parameter.accepts.isSome

/-- Goes on by a row of letters, of which the first that takes a value takes the rest. -/
def applyLetters (grammar : Grammar) : List Char → Given → Except Stop Given
  | [], given => .ok given
  | letter :: rest, given =>
    let isNamed (parameter : Parameter) : Bool := parameter.short == some letter
    if grammar.takesValue letter then
      let value := match rest with
        | [] => none
        | '=' :: value => some (String.ofList value)
        | value => some (String.ofList value)
      grammar.apply isNamed value given
    else
      match grammar.apply isNamed none given with
      | .ok given => grammar.applyLetters rest given
      | .error stop => .error stop

/-- Goes on by a word after two dashes, with the value after an equals sign attached to it. -/
def applyWord (grammar : Grammar) (word : List Char) (given : Given) : Except Stop Given :=
  let (name, attached) := match Split.first? '=' word with
    | some (name, value) => (name, some (String.ofList value))
    | none => (word, none)
  grammar.apply (fun parameter => parameter.long == String.ofList name) attached given

/--
Reads arguments up to the first command, which is returned with the arguments after it.

What is pending there is left so, because the command is looked at first.
-/
def read (grammar : Grammar) : List String → Given →
    Except Stop (Given × Option (String × List String))
  -- After two dashes alone there may only be operands, and no command takes any.
  | [], given => .ok (given, none)
  | argument :: rest, given =>
    if !given.isWaiting && grammar.commands.contains argument then
      .ok (given, some (argument, rest))
    else
      match argument.toList with
      | ['-', '-'] => if rest.isEmpty then .ok (given, none) else .error .misused
      | '-' :: '-' :: word =>
        match grammar.applyWord word given with
        | .ok given => grammar.read rest given
        | .error stop => .error stop
      | '-' :: letter :: letters =>
        match grammar.applyLetters (letter :: letters) given with
        | .ok given => grammar.read rest given
        | .error stop => .error stop
      | _ =>
        match given.pending with
        | some (parameter, none) =>
          grammar.read rest { given with pending := some (parameter, some argument) }
        | _ => .error .misused

end Grammar

end SentinelRounds
