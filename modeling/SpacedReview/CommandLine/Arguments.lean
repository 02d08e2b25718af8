import SpacedReview.Card.Id
import SpacedReview.Review.Outcome
import SpacedReview.Text.Decimal

/-!
# Command line arguments

The arguments name a command, behind options that every command takes, and give the command's own
arguments. An option is written `--name value` or `--name=value`; its value, unless attached, does
not start with a dash, a lone dash apart. All arguments behind `--` are taken as they are. Only the
option for tags may be given more than once, and options that every command takes may stand on
either side of the command, where the one behind it wins.

Whatever does not fit is a reason to stop, as are the requests for help and for the version; the
first reason met from left to right counts.
-/

namespace SpacedReview.CommandLine

open SpacedReview.Review

/-- Why no command is carried out. -/
inductive Stop where
  | help
  | version
  /-- The arguments do not fit. -/
  | usage
  deriving DecidableEq, Repr

/-- A command with its arguments. -/
inductive Command where
  | add (kind : CardKind) (item : String) (english : Option String) (tags : List String)
  | mark (card : CardId) (outcome : Outcome)
  | learn (kind : Option CardKind)
  | showCard (card : CardId)
  | search (query : String) (limit : Nat)
  | parse (query : String)

/-- A command and the options that every command takes. -/
structure Invocation where
  config : Option String
  database : Option String
  user : Option String
  command : Command

/-! ### Single arguments -/

/-- What an argument looks like. -/
inductive Argument where
  /-- The mark behind which arguments are taken as they are. -/
  | escape
  /-- An option with the value attached to it. -/
  | option (name : String) (value : Option String)
  /-- A letter behind a single dash. -/
  | letter (c : Char)
  | plain (s : String)

/-- What an argument looks like. -/
def Argument.of (s : String) : Argument :=
  match s.toList with
  | ['-', '-'] => escape
  | '-' :: '-' :: cs =>
    let name := String.ofList (cs.takeWhile (· != '='))
    match cs.dropWhile (· != '=') with
    | _ :: value => option name (some (String.ofList value))
    | [] => option name none
  | '-' :: c :: _ => letter c
  | _ => plain s

/-- The value of an option that has none attached, and the arguments behind it. -/
def separateValue : List String → Except Stop (String × List String)
  | [] => .error .usage
  | s :: rest =>
    match Argument.of s with
    | .plain _ => .ok (s, rest)
    | _ => .error .usage

/-! ### Options -/

/-- Options in the order in which they were given. -/
abbrev Options := List (String × String)

/-- The options that every command takes. -/
def sharedOptions : List String := ["config", "db", "user"]

/-- The option that may be given more than once. -/
def repeatable (name : String) : Bool := name == "tag"

/-- Adds an option to those given before. A path is not empty. -/
def addOption (given : Options) (name value : String) : Except Stop Options :=
  if !repeatable name && given.any (·.1 == name) then .error .usage
  else if name = "config" ∧ value = "" then .error .usage
  else .ok (given ++ [(name, value)])

/-- The value of an option, if it was given. -/
def valueOf (given : Options) (name : String) : Option String :=
  (given.find? (·.1 == name)).map (·.2)

/-- All values of an option. -/
def valuesOf (given : Options) (name : String) : List String :=
  (given.filter (·.1 == name)).map (·.2)

/-! ### Rows of arguments -/

/-- Options, and the arguments that are none. -/
structure Scanned where
  options : Options
  plain : List String

/-- The options in front of the command, the command, and the arguments behind it. The first
argument bounds the number of steps. -/
def scanFront : Nat → Options → List String → Except Stop (Options × String × List String)
  | 0, _, _ | _, _, [] => .error .usage
  | n + 1, given, s :: rest =>
    match Argument.of s with
    | .plain name => .ok (given, name, rest)
    | .option "help" none | .letter 'h' => .error .help
    | .option "version" none | .letter 'V' => .error .version
    | .option name attached => do
      if name ∈ sharedOptions then
        let (value, rest) ← match attached with
          | some value => pure (value, rest)
          | none => separateValue rest
        scanFront n (← addOption given name value) rest
      else
        .error .usage
    | _ => .error .usage

/-- The arguments behind a command that takes the given options and at most so many arguments that
are none. The first argument bounds the number of steps. -/
def scanBehind (allowed : List String) (most : Nat) : Nat → Scanned → List String →
    Except Stop Scanned
  | 0, _, _ => .error .usage
  | _, scanned, [] => .ok scanned
  | n + 1, scanned, s :: rest =>
    match Argument.of s with
    | .plain s =>
      if scanned.plain.length < most then
        scanBehind allowed most n ⟨scanned.options, scanned.plain ++ [s]⟩ rest
      else
        .error .usage
    | .escape =>
      let plain := scanned.plain ++ rest
      if plain.length ≤ most then .ok ⟨scanned.options, plain⟩ else .error .usage
    | .option "help" none | .letter 'h' => .error .help
    | .option name attached => do
      if name ∈ allowed then
        let (value, rest) ← match attached with
          | some value => pure (value, rest)
          | none => separateValue rest
        scanBehind allowed most n ⟨← addOption scanned.options name value, scanned.plain⟩ rest
      else
        .error .usage
    | .letter _ => .error .usage

/-! ### Commands -/

/-- A value that has to be there and fit. -/
def fit {α : Type} (parsed : Except Failure α) : Except Stop α := parsed.mapError fun _ ↦ .usage

/-- A number without sign below 2^64. -/
def limitOf (s : String) : Except Stop Nat :=
  match Text.Decimal.nat? (match s.toList with
    | '+' :: cs => cs
    | cs => cs) with
  | some n => if n < Text.Decimal.count64 then .ok n else .error .usage
  | none => .error .usage

/-- The options of a command beside the shared ones, and the most arguments it takes. -/
def shape? : String → Option (List String × Nat)
  | "add" => some (["type", "english", "tag"], 1)
  | "mark" => some ([], 2)
  | "learn" => some (["type"], 0)
  | "show" => some ([], 1)
  | "search" => some (["limit"], 1)
  | "parse" => some ([], 1)
  | _ => none

/-- The command with a name and arguments. -/
def commandOf (name : String) (options : Options) (plain : List String) : Except Stop Command :=
  match name, plain with
  | "add", [item] => do
    let kind ← fit (CardKind.parse ((valueOf options "type").getD "vocab"))
    return .add kind item (valueOf options "english") (valuesOf options "tag")
  | "mark", [card, outcome] => do
    return .mark (← fit (CardId.parse card)) (← fit (Outcome.parse outcome))
  | "learn", [] => do
    return .learn (← (valueOf options "type").mapM fun kind ↦ fit (CardKind.parse kind))
  | "show", [card] => do return .showCard (← fit (CardId.parse card))
  | "search", [query] => do
    return .search query (← (valueOf options "limit").elim (.ok 10) limitOf)
  | "parse", [query] => .ok (.parse query)
  | _, _ => .error .usage

/-- What the arguments ask for. -/
def Invocation.parse (arguments : List String) : Except Stop Invocation := do
  let (front, name, rest) ← scanFront (arguments.length + 1) [] arguments
  if name = "help" then throw .help
  match shape? name with
  | none => throw .usage
  | some (own, most) =>
    let behind ← scanBehind (own ++ sharedOptions) most (rest.length + 1) ⟨[], []⟩ rest
    let shared (name : String) := (valueOf behind.options name).or (valueOf front name)
    let command ← commandOf name behind.options behind.plain
    return ⟨shared "config", shared "db", shared "user", command⟩

end SpacedReview.CommandLine
