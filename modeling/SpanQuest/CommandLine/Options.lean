/-
  Options on a command line.

  An argument that begins with a dash and is longer is an option, unless two
  dashes alone came before it.  A long option has its value after an equals
  sign or as the next argument; short options may share one dash, and the
  first of them that wants a value takes what is left of the argument, or the
  next one.  Options and other arguments may stand in any order, and the last
  of two options with one name counts.

  * `Options.read?` tells the options from the other arguments; none if an
    option is not known, lacks its value or has one that it does not want.
-/
namespace SpanQuest.CommandLine

/-- An option: the name of what it says, its spellings, and whether it wants a
    value. -/
structure OptionRule where
  name : String
  spellings : List String
  wantsValue : Bool
  deriving DecidableEq, Repr

/-- What a command line holds: options with their values, and other arguments. -/
structure Options where
  given : List (String × String)
  others : List String
  deriving DecidableEq, Repr, Inhabited

namespace Options

/-- The rule of a spelling. -/
def ruleOf? (rules : List OptionRule) (spelling : String) : Option OptionRule :=
  rules.find? fun r => r.spellings.contains spelling

/-- Short options that share a dash, and the arguments after them. -/
def readShort? (rules : List OptionRule) (rest : List String) :
    List Char → Option (List (String × String) × List String)
  | [] => some ([], rest)
  | c :: cs =>
    match ruleOf? rules (String.ofList ['-', c]) with
    | none => none
    | some r =>
      if r.wantsValue then
        match cs, rest with
        | [], [] => none
        | [], value :: rest => some ([(r.name, value)], rest)
        | cs, rest => some ([(r.name, String.ofList cs)], rest)
      else (readShort? rules rest cs).map fun p => ((r.name, "") :: p.1, p.2)

/-- A long option whose value may be part of it, and the arguments after it. -/
def readLong? (rule : OptionRule) (value : Option String) (rest : List String) :
    Option (List (String × String) × List String) :=
  if rule.wantsValue then
    match value, rest with
    | some v, rest => some ([(rule.name, v)], rest)
    | none, v :: rest => some ([(rule.name, v)], rest)
    | none, [] => none
  else
    match value with
    | some _ => none
    | none => some ([(rule.name, "")], rest)

/-- What an option argument says, and the arguments after it. -/
def readOption? (rules : List OptionRule) (argument : List Char) (rest : List String) :
    Option (List (String × String) × List String) :=
  let spelling := argument.takeWhile (· != '=')
  let value := match argument.dropWhile (· != '=') with
    | [] => none
    | _ :: cs => some (String.ofList cs)
  let isLong := ['-', '-'].isPrefixOf argument
  let rule := if ['-', '-'].isPrefixOf spelling then ruleOf? rules (String.ofList spelling) else none
  match rule with
  | some r => readLong? r value rest
  | none => if isLong then none else readShort? rules rest (argument.drop 1)

/-- The options and the other arguments.  Each step takes an argument, so that
    their number is fuel enough. -/
def readFrom? (rules : List OptionRule) : Nat → Options → List String → Option Options
  | 0, seen, _ => some seen
  | _ + 1, seen, [] => some seen
  | fuel + 1, seen, argument :: rest =>
    if argument == "--" then some { seen with others := seen.others ++ rest }
    else
      match argument.toList with
      | '-' :: c :: cs =>
        match readOption? rules ('-' :: c :: cs) rest with
        | none => none
        | some (given, rest) => readFrom? rules fuel { seen with given := seen.given ++ given } rest
      | _ => readFrom? rules fuel { seen with others := seen.others ++ [argument] } rest

/-- The options and the other arguments of a command line. -/
def read? (rules : List OptionRule) (arguments : List String) : Option Options :=
  readFrom? rules (arguments.length + 1) ⟨[], []⟩ arguments

/-- The value of an option; the last one counts. -/
def value? (o : Options) (name : String) : Option String :=
  o.given.reverse.lookup name

/-- The option is there. -/
def has (o : Options) (name : String) : Bool :=
  (o.value? name).isSome

end Options

end SpanQuest.CommandLine
