/-
This file reads the arguments of the command line.
-/

namespace DocumentQuery

inductive Command where
  | check (directory : String)
  | explain (directory request : String) (output : Option String)
  | schema (directory : String) (output : Option String)
  deriving DecidableEq, Repr

/-- Instead of a command, the arguments may ask for the version or for help, or be misused. -/
inductive Invocation where
  | run (command : Command)
  | version
  | help
  | misuse
  deriving DecidableEq, Repr

namespace Invocation

inductive Verb where
  | check
  | explain
  | schema
  deriving DecidableEq, Repr

namespace Verb

def ofName? : String → Option Verb
  | "check" => some .check
  | "explain" => some .explain
  | "schema" => some .schema
  | _ => none

def positionals : Verb → Nat
  | .check | .schema => 1
  | .explain => 2

def takesOutput : Verb → Bool
  | .check => false
  | .explain | .schema => true

end Verb

/-- An output option may still wait for its value. After a bare `--`, every argument is
positional. -/
structure Progress where
  positionals : List String := []
  output : Option String := none
  waiting : Bool := false
  trailing : Bool := false

/-- Reading stops early at a request for help or at a misuse. -/
inductive Step where
  | next (progress : Progress)
  | stop (invocation : Invocation)

namespace Progress

/-- An option is given at most once, and no value is empty. -/
def withOutput (progress : Progress) (value : String) : Step :=
  if value = "" ∨ progress.output.isSome then .stop .misuse
  else .next { progress with output := some value, waiting := false }

def awaitOutput (progress : Progress) : Step :=
  if progress.output.isSome then .stop .misuse else .next { progress with waiting := true }

def withPositional (verb : Verb) (progress : Progress) (value : String) : Step :=
  if value = "" ∨ verb.positionals ≤ progress.positionals.length then .stop .misuse
  else .next { progress with positionals := progress.positionals ++ [value] }

/-- The value of a short option may follow the letter, with or without an equals sign. -/
def shortOption (verb : Verb) (progress : Progress) : List Char → Step
  | 'h' :: _ => .stop .help
  | 'o' :: rest =>
      if !verb.takesOutput then .stop .misuse
      else match rest with
        | [] => progress.awaitOutput
        | '=' :: value => progress.withOutput (String.ofList value)
        | value => progress.withOutput (String.ofList value)
  | _ => .stop .misuse

/-- The value of a long option may follow an equals sign. -/
def longOption (verb : Verb) (progress : Progress) (option : List Char) : Step :=
  match option.span (· ≠ '=') with
  | (name, rest) =>
      if name = "help".toList ∧ rest = [] then .stop .help
      else if name = "output".toList ∧ verb.takesOutput then
        match rest with
        | [] => progress.awaitOutput
        | _ :: value => progress.withOutput (String.ofList value)
      else .stop .misuse

def plain (verb : Verb) (progress : Progress) (argument : String) : Step :=
  if progress.waiting then progress.withOutput argument
  else progress.withPositional verb argument

/-- No value begins with a dash, except the dash alone. An option that still waits for its value
is misused by another option. -/
def step (verb : Verb) (progress : Progress) (argument : String) : Step :=
  if progress.trailing then progress.withPositional verb argument
  else match argument.toList with
    | ['-', '-'] => .next { progress with trailing := true }
    | '-' :: '-' :: option =>
        if progress.waiting then .stop .misuse else progress.longOption verb option
    | ['-'] => progress.plain verb argument
    | '-' :: letters =>
        if progress.waiting then .stop .misuse else progress.shortOption verb letters
    | _ => progress.plain verb argument

/-- Every positional argument is needed. -/
def finish (verb : Verb) (progress : Progress) : Invocation :=
  if progress.waiting then .misuse
  else match verb, progress.positionals with
    | .check, [directory] => .run (.check directory)
    | .explain, [directory, request] => .run (.explain directory request progress.output)
    | .schema, [directory] => .run (.schema directory progress.output)
    | _, _ => .misuse

def read (verb : Verb) (progress : Progress) : List String → Invocation
  | [] => progress.finish verb
  | argument :: rest =>
      match progress.step verb argument with
      | .next progress => read verb progress rest
      | .stop invocation => invocation

end Progress

/-- Before the verb only the version and help can be asked for. -/
def ofArguments : List String → Invocation
  | [] => .misuse
  | argument :: rest =>
      match Verb.ofName? argument with
      | some verb => Progress.read verb {} rest
      | none =>
          match argument.toList with
          | ['-', '-', 'v', 'e', 'r', 's', 'i', 'o', 'n'] => .version
          | ['-', '-', 'h', 'e', 'l', 'p'] => .help
          | '-' :: 'V' :: _ => .version
          | '-' :: 'h' :: _ => .help
          | _ => .misuse

end Invocation

end DocumentQuery
