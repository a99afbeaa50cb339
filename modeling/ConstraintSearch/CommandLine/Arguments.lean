import ConstraintSearch.Algorithm
import ConstraintSearch.Decimal.Reader

/-!
The arguments of the program: options for all commands, the command, and its own options.
-/

namespace ConstraintSearch.CommandLine

inductive Command where
  | map (colours : Nat) (config : Option String)
  | sudoku (puzzle : Option String) (clearChance : Binary64)
  | queens (size : Nat)
  | queensSweep (least most : Nat)
  | algorithms
deriving DecidableEq

/-- Options of all commands. Without a seed one is drawn. Being verbose concerns the log, which is
no part of what is printed. -/
structure Options where
  verbose : Bool := false
  seed : Option Nat := none
  algorithm : Algorithm := .backtracking
  animate : Bool := false
  json : Bool := false
deriving DecidableEq

inductive Request where
  | version
  | run (options : Options) (command : Command)
deriving DecidableEq

/-- An option by its name after two hyphens, the letter after one hyphen if it has one, and
whether it takes a value. -/
structure OptionRule where
  name : String
  letter : Option Char
  takesValue : Bool
deriving DecidableEq

def flag (name : String) (letter : Option Char) : OptionRule := ⟨name, letter, false⟩

def setting (name : String) (letter : Option Char) : OptionRule := ⟨name, letter, true⟩

/-- Options that may stand before and after the command. -/
def sharedRules : List OptionRule :=
  [flag "verbose" (some 'v'), setting "seed" none, setting "algorithm" none, flag "animate" none,
    flag "json" none]

/-- Asking for the version ends the reading of arguments, so it only counts before a command. -/
def versionRule : OptionRule := flag "version" (some 'V')

def commandRules : String → Option (List OptionRule)
  | "map" => some [setting "colours" none, setting "config" none]
  | "sudoku" => some [setting "puzzle" none, setting "clear-probability" none]
  | "queens" => some [setting "n" (some 'n')]
  | "queens-sweep" => some [setting "from" none, setting "to" none]
  | "algorithms" => some []
  | _ => none

/-- The options of one level, each with its value; a flag has an empty one. -/
abbrev Given := List (String × String)

/-- A level may name an option once. -/
def Given.add (given : Given) (name value : String) : Option Given :=
  if given.any fun (other, _) => other == name then none else some (given ++ [(name, value)])

def Given.value? (given : Given) (name : String) : Option String :=
  (given.find? fun (other, _) => other == name).map Prod.snd

def Given.has (given : Given) (name : String) : Bool := (given.value? name).isSome

def splitEquals (text : List Char) : String × Option String :=
  let rest := text.dropWhile (· != '=')
  (String.ofList (text.takeWhile (· != '=')),
    if rest.isEmpty then none else some (String.ofList rest.tail))

/-- A value that stands on its own cannot start with a hyphen, unless it is nothing else. -/
def standsAlone (text : String) : Bool := text == "-" || !text.startsWith "-"

/-- What the letters after one hyphen say: the options, and one that still waits for its value.
A value may follow its letter directly or after an equals sign. Nothing is read beyond the letter
that asks for the version. -/
def letters (rules : List OptionRule) (given : Given) : List Char → Option (Given × Option String)
  | [] => some (given, none)
  | letter :: rest => do
    let rule ← rules.find? fun rule => rule.letter == some letter
    if rule.takesValue then
      match rest with
      | [] => return (given, some rule.name)
      | '=' :: value => return (← given.add rule.name (String.ofList value), none)
      | value => return (← given.add rule.name (String.ofList value), none)
    else if rule = versionRule then return (← given.add rule.name "", none)
    else letters rules (← given.add rule.name "") rest

/-- An option by name: what is given with it, and whether it still waits for its value. -/
def longOption (rules : List OptionRule) (given : Given) (text : List Char) :
    Option (Given × Option String) := do
  let (name, value?) := splitEquals text
  let rule ← rules.find? fun rule => rule.name == name
  match rule.takesValue, value? with
  | true, some value => return (← given.add name value, none)
  | true, none => return (given, some name)
  | false, none => return (← given.add name "", none)
  | false, some _ => none

/-- What an argument says as an option: nothing if it is none, otherwise the options given and
one that may wait for its value, unless it breaks the rules. -/
def option? (rules : List OptionRule) (given : Given) (arg : String) :
    Option (Option (Given × Option String)) :=
  match arg.toList with
  | '-' :: '-' :: text => some (longOption rules given text)
  | '-' :: text => if text.isEmpty then none else some (letters rules given text)
  | _ => none

inductive Ending where
  | done
  | version
  | word (text : String) (rest : List String)

/-- Reads options up to the first word that is none, or to a request for the version, while one
may wait for its value. Nothing may follow two lone hyphens. -/
def level (rules : List OptionRule) (given : Given) :
    (waiting : Option String) → List String → Option (Given × Ending)
  | none, [] => some (given, .done)
  | some _, [] => none
  | some name, value :: rest =>
    if standsAlone value then
      match given.add name value with
      | some given => level rules given none rest
      | none => none
    else none
  | none, arg :: rest =>
    if arg == "--" then if rest.isEmpty then some (given, .done) else none
    else match option? rules given arg with
      | none => some (given, .word arg rest)
      | some none => none
      | some (some (given, waiting)) =>
        if given.has versionRule.name then some (given, .version)
        else level rules given waiting rest

def natural? (text : String) : Option Nat := Decimal.readNatural? (Nat.pow 2 64) text

def Given.read {α : Type} (given : Given) (name : String) (default : α)
    (decode : String → Option α) : Option α :=
  match given.value? name with
  | some text => decode text
  | none => some default

/-- The shared options of a level. What the level does not give comes from the level before. -/
def Given.options (given : Given) (before : Options) : Option Options := do
  return {
    verbose := before.verbose || given.has "verbose"
    seed := ← given.read "seed" before.seed fun text => (natural? text).map some
    algorithm := ← given.read "algorithm" before.algorithm Algorithm.ofKey?
    animate := before.animate || given.has "animate"
    json := before.json || given.has "json" }

def path? (text : String) : Option (Option String) := if text.isEmpty then none else some text

def command (name : String) (given : Given) : Option Command :=
  match name with
  | "map" => do
    return .map (← given.read "colours" 6 natural?) (← given.read "config" none path?)
  | "sudoku" => do
    return .sudoku (given.value? "puzzle")
      (← given.read "clear-probability" (.ofDecimal false 7 (-1)) Decimal.read?)
  | "queens" => do return .queens (← given.read "n" 8 natural?)
  | "queens-sweep" => do
    return .queensSweep (← given.read "from" 4 natural?) (← given.read "to" 8 natural?)
  | "algorithms" => some .algorithms
  | _ => none

def parse (args : List String) : Option Request := do
  let (given, ending) ← level (versionRule :: sharedRules) [] none args
  let shared ← given.options {}
  match ending with
  | .done => none
  | .version => return .version
  | .word name rest =>
    let rules ← commandRules name
    let (given, ending) ← level (rules ++ sharedRules) [] none rest
    match ending with
    | .done => return .run (← given.options shared) (← command name given)
    | _ => none

end ConstraintSearch.CommandLine
