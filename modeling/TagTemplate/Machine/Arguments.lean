/-
  TagTemplate.Machine.Arguments
  ────────────────────────────────
  **FROM ARGUMENTS TO VARIABLES.**

  A call gives values by position and by name; a function names its
  parameters.  `bindArguments` matches them, or says what is wrong: named
  arguments that do not fit come first, then too many positional ones, then
  what is missing.
-/
import TagTemplate.Machine.Elements

namespace TagTemplate.Machine

open Script

/-- The kind of a parameter. -/
def paramKind : Param → ParamKind
  | .mk kind _ _ _ => kind

/-- The name of a parameter. -/
def paramName : Param → String
  | .mk _ name _ _ => name

/-- The names of the parameters of certain kinds. -/
def Closure.paramsOf (c : Closure) (kinds : List ParamKind) : List String :=
  (c.params.filter fun q => kinds.contains (paramKind q)).map paramName

/-- Names in quotes as a list in words. -/
def listed (names : List String) : String :=
  match (names.map fun n => "'" ++ n ++ "'").reverse with
  | [] => ""
  | [a] => a
  | [b, a] => a ++ " and " ++ b
  | last :: rest => ", ".intercalate rest.reverse ++ ", and " ++ last

/-- Raise the error of arguments that a function misses. -/
def missingArguments (c : Closure) (kind : String) (names : List String) : Eval α :=
  fail "TypeError"
    (c.path ++ "() missing " ++ toString names.length ++ " required " ++ kind ++ " argument"
      ++ (if names.length == 1 then "" else "s") ++ ": " ++ listed names)

/-- Raise the error of too many positional arguments; `named` counts those given by name alone. -/
def tooManyArguments (c : Closure) (given named : Nat) : Eval α := do
  let plural (n : Nat) := if n == 1 then "" else "s"
  let most := (c.paramsOf [.positional, .ordinary]).length
  let optional := ((c.paramsOf [.positional, .ordinary]).filter fun n =>
    c.defaults.any (·.1 == n)).length
  let takes :=
    if optional == 0 then toString most ++ " positional argument" ++ plural most
    else "from " ++ toString (most - optional) ++ " to " ++ toString most
      ++ " positional arguments"
  let but :=
    if named == 0 then toString given ++ (if given == 1 then " was" else " were")
    else
      toString given ++ " positional argument" ++ plural given ++ " (and " ++ toString named
        ++ " keyword-only argument" ++ plural named ++ ") were"
  fail "TypeError" (c.path ++ "() takes " ++ takes ++ " but " ++ but ++ " given")

/-- Match named arguments with parameters; what no parameter takes is left over. -/
def bindKeywords (c : Closure) (bound : List (String × Value)) :
    List (String × Value) → List (String × Value) →
      Eval (List (String × Value) × List (String × Value))
  | [], extra => return (bound, extra.reverse)
  | (name, v) :: rest, extra => do
    if (c.paramsOf [.ordinary, .named]).contains name then
      if bound.any (·.1 == name) then
        fail "TypeError" (c.path ++ "() got multiple values for argument '" ++ name ++ "'")
      else bindKeywords c (bound ++ [(name, v)]) rest extra
    else if (c.paramsOf [.gatherNamed]).isEmpty then
      let hidden := (c.paramsOf [.positional]).filter fun n =>
        n == name || rest.any (·.1 == n)
      if hidden.isEmpty then
        fail "TypeError" (c.path ++ "() got an unexpected keyword argument '" ++ name ++ "'")
      else
        fail "TypeError"
          (c.path ++ "() got some positional-only arguments passed as keyword arguments: '"
            ++ ", ".intercalate hidden ++ "'")
    else bindKeywords c bound rest ((name, v) :: extra)

/-- The variables of a call. -/
def bindArguments (c : Closure) (args : List Value) (keywords : List (String × Value)) :
    Eval (List (String × Value)) := do
  let positional := c.paramsOf [.positional, .ordinary]
  let named := c.paramsOf [.named]
  let start := positional.zip args
  let (bound, extra) ← bindKeywords c start keywords []
  let gather := c.paramsOf [.gather]
  if args.length > positional.length && gather.isEmpty then
    tooManyArguments c args.length (bound.countP fun (n, _) => named.contains n)
  let has (n : String) : Bool := bound.any (·.1 == n) || c.defaults.any (·.1 == n)
  let missing := positional.filter fun n => !has n
  if !missing.isEmpty then missingArguments c "positional" missing
  let missing := named.filter fun n => !has n
  if !missing.isEmpty then missingArguments c "keyword-only" missing
  let dflts := c.defaults.filter fun (n, _) => !bound.any (·.1 == n)
  let rest := gather.map fun n => (n, Value.tuple (args.drop positional.length))
  let others ← (c.paramsOf [.gatherNamed]).mapM fun n => do
    return (n, ← newDict (extra.map fun (k, v) => (.str k, v)))
  return bound ++ dflts ++ rest ++ others

/-- The arguments of a function that is no script by the names of its parameters, the first `least`
of which have to be given; the others may be absent. -/
def argumentsFor (path : String) (params : List String) (least : Nat) (args : List Value)
    (keywords : List (String × Value)) : Eval (List Value) := do
  let c : Closure :=
    { name := path, path
      params := params.map fun n => .mk .ordinary n none none
      defaults := (params.drop least).map fun n => (n, .none)
      body := .block [], locals := [], globals := [], frame := 0, isAsync := false }
  let vars ← bindArguments c args keywords
  return params.map fun n => (vars.lookup n).getD .none

end TagTemplate.Machine
