/-
  TagTemplate.Machine.Function
  ────────────────────────────────
  **FUNCTIONS THAT EVERY SCRIPT HAS.**

  The built-in functions, the primitives that output goes through, and the
  functions that are lent to templates from outside.
-/
import TagTemplate.Machine.Arguments
import TagTemplate.Machine.Method
import TagTemplate.Text.Digits
import TagTemplate.Text.Html

namespace TagTemplate.Machine

open Text

/-! ## §1. Errors. -/

/-- The text of an argument that is one. -/
def textAt? (args : List Value) (n : Nat) : Option String := (args[n]?).bind text?

/-- The error of the library that an instance of one of its classes stands for. -/
def libraryError? (m : Machine) (className : String) (args : List Value) : Option TemplateError :=
  let text := ({ className, args } : Raised).shown m
  let first := ((args.head?).map (shown m)).getD ""
  match className with
  | "TemplateError" => some (.plain text)
  | "ConfigurationError" => some (.configuration (.other text))
  | "TemplateNotFoundError" => some (.notFound (.other text))
  | "TemplateSyntaxError" =>
    some (.badCode
      { text := first, lineno := (args[1]?).bind number?, name := textAt? args 2
        filename := textAt? args 3, codeLine := textAt? args 4 })
  | "TemplateRuntimeError" => some (.failure { kind := .plain first })
  | "IncludeDepthError" => some (.failure { kind := .includeDepth first })
  | "UndefinedError" => some (.failure (Report.ofUndefined first []))
  | _ => none

/-- Where an instance of a class of the library is made, what it takes, and how much of that it
needs. -/
def makerOf? (className : String) : Option (String × List String × Nat) :=
  match className with
  | "TemplateSyntaxError" =>
    some (className, ["message", "lineno", "name", "filename", "code_line"], 1)
  | "TemplateRuntimeError" | "IncludeDepthError" => some ("TemplateRuntimeError", ["message"], 1)
  | "UndefinedError" => some (className, ["name", "available_names"], 1)
  | _ => none

/-- How many arguments a class of errors takes, if that is fixed. -/
def exactArguments? (className : String) : Option Nat :=
  match className with
  | "UnicodeDecodeError" | "UnicodeEncodeError" => some 5
  | "UnicodeTranslateError" => some 4
  | _ => none

/-- Raise an error unless a class of errors takes these arguments. -/
def checkArguments (className : String) (args : List Value) : Eval Unit := do
  match makerOf? className, exactArguments? className with
  | some (path, params, least), _ =>
    let _ ← argumentsFor (path ++ ".__init__") ("self" :: params) (least + 1) (.none :: args) []
  | none, some n =>
    if args.length != n then
      fail "TypeError"
        ("function takes exactly " ++ toString n ++ " arguments (" ++ toString args.length
          ++ " given)")
  | none, none => return ()

/-- The class of a numbered fault: the number decides it unless a narrower class was asked for. -/
def numberedClass (className : String) (number : Value) : String :=
  if className == "OSError" then
    ((number? number).bind fun n => ErrorClass.numbered.lookup n).getD className
  else className

/-- A fault that the operating system has a number for: its number, its text, the file it is about,
and behind a further number the other file. -/
def systemError? (m : Machine) (className : String) (args : List Value) : Option Raised :=
  if args.length > 5 || !ErrorClass.isBelow className "OSError" then none
  else
    match args with
    | number :: text :: files =>
      let start := "[Errno " ++ shown m number ++ "] " ++ shown m text
      let className := numberedClass className number
      match files with
      | [] | .none :: _ => some { className, args, text := some start }
      | _ :: _ =>
        let named := (files.take 1 ++ files.drop 2).filter fun f => !(f matches .none)
        some
          { className, args := [number, text]
            text := some (start ++ ": " ++ " -> ".intercalate (named.map (written m))) }
    | _ => none

/-- An instance of a class of errors. -/
def instantiate (className : String) (args : List Value) (name : Option Value) : Eval Raised := do
  checkArguments className args
  let m ← get
  match systemError? m className args with
  | some e => return e
  | none =>
    let report := libraryError? m className args
    let unsaid := args.isEmpty && ErrorClass.isBelow className "SyntaxError"
    return {
      className, args, name, report
      text := if unsaid then some "None" else report.map (·.message m.color) }

/-- Raise the error of a named argument that a function does not know. -/
def invalidKeyword (function name : String) : Eval α :=
  fail "TypeError" ("'" ++ name ++ "' is an invalid keyword argument for " ++ function ++ "()")

/-- Raise the error of a function that knows no named arguments. -/
def noKeywords (function : String) : Eval α :=
  fail "TypeError" (function ++ "() takes no keyword arguments")

/-- The classes of errors that can be told a name. -/
def namedClasses : List String := ["NameError", "AttributeError", "ImportError"]

/-- A new error of a class. -/
def newError (className : String) (args : List Value) (keywords : List (String × Value)) :
    Eval Value := do
  match keywords with
  | [] => new (.error (← instantiate className args none))
  | (k, v) :: _ =>
    match namedClasses.find? (ErrorClass.isBelow className) with
    | some base =>
      if k == "name" then new (.error (← instantiate className args (some v)))
      else invalidKeyword base k
    | none => noKeywords className

/-! ## §2. Numbers. -/

/-- The value of a digit: ten figures, then the letters. -/
def digitIn? (base : Nat) (c : Char) : Option Nat :=
  let value := match digitValue? c with
    | some d => some d
    | none => if c.isAlpha then some (c.toLower.toNat - 'a'.toNat + 10) else none
  value.filter (· < base)

/-- The number that digits stand for, which single underscores may separate. -/
def readDigits? (base : Nat) : Nat → List Char → Option Nat
  | _, [] => none
  | n, [c] => (digitIn? base c).map (base * n + ·)
  | n, c :: '_' :: rest => (digitIn? base c).bind fun d => readDigits? base (base * n + d) rest
  | n, c :: rest => (digitIn? base c).bind fun d => readDigits? base (base * n + d) rest

/-- The digits behind the mark of a base, which may stand before them. -/
def withoutMark (mark : Char) : List Char → List Char
  | '0' :: c :: '_' :: rest => if c.toLower == mark then rest else '0' :: c :: '_' :: rest
  | '0' :: c :: rest => if c.toLower == mark then rest else '0' :: c :: rest
  | cs => cs

/-- The marks of bases. -/
def baseMarks : List (Nat × Char) := [(2, 'b'), (8, 'o'), (16, 'x')]

/-- The number that digits stand for in a base; base zero means the one that is marked. -/
def readUnsigned? (base : Nat) (cs : List Char) : Option Nat :=
  if base == 0 then
    match baseMarks.find? fun (_, mark) => withoutMark mark cs != cs with
    | some (b, mark) => readDigits? b 0 (withoutMark mark cs)
    | none =>
      let n := readDigits? 10 0 cs
      if cs.head? == some '0' then n.filter (· == 0) else n
  else
    match baseMarks.lookup base with
    | some mark => readDigits? base 0 (withoutMark mark cs)
    | none => readDigits? base 0 cs

/-- The number that a text stands for: digits with a sign before and blanks around. -/
def readNumber? (base : Nat) (cs : List Char) : Option Int :=
  match strip cs with
  | '-' :: rest => (readUnsigned? base rest).map fun n => -(n : Int)
  | '+' :: rest => (readUnsigned? base rest).map fun n => (n : Int)
  | rest => (readUnsigned? base rest).map fun n => (n : Int)

/-- The number that a text stands for in a base. -/
def textToNumber (base : Nat) (s : String) : Eval Value :=
  match readNumber? base s.toList with
  | some i => return .int i
  | none =>
    fail "ValueError"
      ("invalid literal for int() with base " ++ toString base ++ ": " ++ quoted s)

/-- The whole number that a value stands for. -/
def toNumber (v : Value) : Eval Value := do
  match number? v, text? v with
  | some i, _ => return .int i
  | none, some s => textToNumber 10 s
  | none, none =>
    typeFail "int() argument must be a string, a bytes-like object or a real number, not '" v "'"

/-- The number that an argument has to be. -/
def indexArgument (v : Value) : Eval Int :=
  match number? v with
  | some i => return i
  | none => typeFail "'" v "' object cannot be interpreted as an integer"

/-- The whole number that a text stands for in a base that an argument gives. -/
def toNumberIn (v base : Value) : Eval Value := do
  let b ← indexArgument base
  match text? v with
  | none => fail "TypeError" "int() can't convert non-string with explicit base"
  | some s =>
    if b != 0 && (b < 2 || b > 36) then
      fail "ValueError" "int() base must be >= 2 and <= 36, or 0"
    else textToNumber b.toNat s

/-! ## §3. Built-in functions. -/

/-- The number of elements of a value. -/
def lengthOf (v : Value) : Eval Value := do
  let none_ : Eval Value := typeFail "object of type '" v "' has no len()"
  match text? v with
  | some s => return .int s.length
  | none =>
    match v with
    | .tuple items => return .int items.length
    | .ref id =>
      match ← cell id with
      | .list items | .set items => return .int items.size
      | .dict entries => return .int entries.size
      | .range start stop step => return .int (rangeNumbers start stop step).length
      | .view source _ =>
        match ← cell source with
        | .dict entries => return .int entries.size
        | _ => return .int 0
      | _ => none_
    | _ => none_

/-- The sum of some elements and a start. -/
def sumOf (v start : Value) : Eval Value := do
  match text? start with
  | some _ => fail "TypeError" "sum() can't sum strings [use ''.join(seq) instead]"
  | none => (← elements v).foldlM (add false) start

/-- The first of the elements that no other one is before. -/
def extreme (p : Powers) (name : String) (o : Order) (args : List Value)
    (keywords : List (String × Value)) : Eval Value := do
  let items ← match args with
    | [v] => elements v
    | vs => pure vs
  match ← keyed p ((keywords.lookup "key").getD .none) items with
  | [] =>
    match keywords.lookup "default" with
    | some v => return v
    | none => fail "ValueError" (name ++ "() arg is an empty sequence")
  | first :: rest =>
    let best ← rest.foldlM (fun best next => do
      return if ← ordered o next.1 best.1 then next else best) first
    return best.2

/-- The elements of several values side by side, as long as all have one; `fuel` bounds them. -/
def sideBySide : Nat → List (List Value) → List Value
  | 0, _ => []
  | fuel + 1, rows =>
    if rows.isEmpty || rows.any (·.isEmpty) then []
    else .tuple (rows.map fun r => r.headD .none) :: sideBySide fuel (rows.map (·.tail))

/-- The elements of a value from the last to the first. -/
def backwards (v : Value) : Eval Value := do
  let refuse : Eval Value := typeFail "'" v "' object is not reversible"
  let walk (name : String) (items : List Value) : Eval Value :=
    new (.walk name (.items items.reverse))
  match text? v, v with
  | some _, _ | _, .tuple _ => walk "reversed" (← elements v)
  | _, .ref id =>
    match ← cell id with
    | .list items => walk "list_reverseiterator" items.toList
    | .dict entries => walk "dict_reversekeyiterator" (entries.toList.map (·.1))
    | .range _ _ _ => walk "range_iterator" (← elements v)
    | _ => refuse
  | _, _ => refuse

/-- Check how a text is said to be encoded. -/
def checkEncoding (what : String) (v : Value) : Eval Unit :=
  match v, text? v with
  | _, some _ => return ()
  | .none, _ => fail "TypeError" ("str() argument '" ++ what ++ "' must be str, not None")
  | _, _ => typeFail ("str() argument '" ++ what ++ "' must be str, not ") v ""

/-- The names of the parameters of the plain form. -/
def textParams : List String := ["object", "encoding", "errors"]

/-- The plain form of a value; nothing at all has an empty one, and no value can be decoded. -/
def toText (args : List Value) (keywords : List (String × Value)) : Eval Value := do
  let count := args.length + keywords.length
  if count > textParams.length then
    fail "TypeError" ("str() takes at most 3 arguments (" ++ toString count ++ " given)")
  let given := textParams.zip args
  for (k, n) in given.zipIdx do
    if keywords.any (·.1 == k.1) then
      fail "TypeError"
        ("argument for str() given by name ('" ++ k.1 ++ "') and position (" ++ toString (n + 1)
          ++ ")")
  for (k, _) in keywords do
    if !textParams.contains k then invalidKeyword "str" k
  let all := given ++ keywords
  for what in ["encoding", "errors"] do
    match all.lookup what with
    | some v => checkEncoding what v
    | none => pure ()
  match all.lookup "object", all.any (·.1 != "object") with
  | none, _ => return .str ""
  | some v, false => return .str (shown (← get) v)
  | some v, true =>
    match text? v with
    | some _ => fail "TypeError" "decoding str is not supported"
    | none => typeFail "decoding to str: need a bytes-like object, " v " found"

/-- Call a built-in function that takes positional arguments alone. -/
def callPlain (b : Builtin) (args : List Value) : Eval Value := do
  match b, args with
  | .len, [v] => lengthOf v
  | .repr, [v] => return .str (written (← get) v)
  | .int, [] => return .int 0
  | .int, [v] => toNumber v
  | .int, [v, base] => toNumberIn v base
  | .int, as =>
    fail "TypeError" ("int() takes at most 2 arguments (" ++ toString as.length ++ " given)")
  | .bool, [] => return .bool false
  | .bool, [v] => return .bool (truthy (← get) v)
  | .list, [] => newList []
  | .list, [v] => do newList (← elements v)
  | .tuple, [] => return .tuple []
  | .tuple, [v] => return .tuple (← elements v)
  | .any, [v] => do
    let m ← get
    return .bool ((← elements v).any (truthy m))
  | .all, [v] => do
    let m ← get
    return .bool ((← elements v).all (truthy m))
  | .abs, [v] =>
    match number? v with
    | some i => return .int i.natAbs
    | none => typeFail "bad operand type for abs(): '" v "'"
  | .range, [stop] => new (.range 0 (← indexArgument stop) 1)
  | .range, [start, stop] => do new (.range (← indexArgument start) (← indexArgument stop) 1)
  | .range, [start, stop, step] => do
    let start ← indexArgument start
    let stop ← indexArgument stop
    let step ← indexArgument step
    if step == 0 then fail "ValueError" "range() arg 3 must not be zero"
    else new (.range start stop step)
  | .zip, vs => do
    let rows ← vs.mapM elements
    let count := rows.foldl (fun n row => n + row.length) 1
    new (.walk "zip" (.items (sideBySide count rows)))
  | .reversed, [v] => backwards v
  | .len, as | .repr, as | .any, as | .all, as | .abs, as => oneArgument b.name as.length
  | .list, as | .tuple, as | .bool, as => expected b.name 0 1 as.length
  | .range, as => expected b.name 1 3 as.length
  | .reversed, as =>
    fail "TypeError" ("reversed expected 1 argument, got " ++ toString as.length)
  | _, _ => unsupported b.name

/-- The elements of a value with their numbers. -/
def enumerateOf (given : List (String × Value)) (count : Nat) : Eval Value := do
  if count > 2 then
    fail "TypeError" ("enumerate() takes at most 2 arguments (" ++ toString count ++ " given)")
  match given.find? fun (k, _) => k != "iterable" && k != "start" with
  | some (k, _) => invalidKeyword "enumerate" k
  | none =>
    match given.lookup "iterable", given.lookup "start" with
    | some v, start =>
      let start ← match start with
        | some n => indexArgument n
        | none => pure 0
      new (.walk "enumerate" (.numbered (← walkOf v) start))
    | none, some _ => invalidKeyword "enumerate" "start"
    | none, none => fail "TypeError" "enumerate() missing required argument 'iterable'"

/-- Call a built-in function. -/
def callBuiltin (p : Powers) (b : Builtin) (args : List Value) (keywords : List (String × Value)) :
    Eval Value := do
  match b, args, keywords with
  | .sum, [v], [] => sumOf v (.int 0)
  | .sum, [v, start], [] | .sum, [v], [("start", start)] => sumOf v start
  | .sum, [], _ => fail "TypeError" "sum() takes at least 1 positional argument (0 given)"
  | .sum, as, ks =>
    match ks.find? (·.1 != "start") with
    | some (k, _) => invalidKeyword "sum" k
    | none =>
      fail "TypeError"
        ("sum() takes at most 2 arguments (" ++ toString (as.length + ks.length) ++ " given)")
  | .str, as, ks => toText as ks
  | .int, [v], [("base", base)] => toNumberIn v base
  | .int, _, (k, _) :: _ =>
    if k == "base" then fail "TypeError" "int() missing string argument" else invalidKeyword "int" k
  | .sorted, [v], ks =>
    match ks.find? fun (k, _) => k != "key" && k != "reverse" with
    | some (k, _) => invalidKeyword "sort" k
    | none => do newList (← sortedElements p (← elements v) ks)
  | .sorted, as, _ =>
    fail "TypeError" ("sorted expected 1 argument, got " ++ toString as.length)
  | .enumerate, as, ks => enumerateOf (["iterable", "start"].zip as ++ ks) (as.length + ks.length)
  | .min, [], _ | .max, [], _ => expected b.name 1 1 0
  | .min, as, ks => extreme p b.name .lt as ks
  | .max, as, ks => extreme p b.name .gt as ks
  | .dict, [], ks => dictOf (ks.map fun (k, v) => (.str k, v))
  | .dict, [v], ks => do dictOf ((← pairsOf v) ++ ks.map fun (k, v) => (.str k, v))
  | .dict, as, _ => expected b.name 0 1 as.length
  | _, as, [] => callPlain b as
  | _, _, _ => noKeywords b.name

/-! ## §4. Primitives. -/

/-- What a primitive makes of a value. -/
def applyPrimitive (p : Primitive) (v : Value) : Eval Value := do
  let text : String := shown (← get) v
  match p with
  | .html =>
    match v, ← cellOf? v with
    | .markup s, _ => return .str s
    | _, some (.html content) => return .str (shown (← get) content)
    | _, _ => return .str (htmlEscaped text)
  | .digits => return .str (replaced text "a" "4")
  | .brackets => return .str ("[" ++ text ++ "]")
  | .length => lengthOf v
  | .plain => return .str text
  | .written => return .str (written (← get) v)
  | .dash => return if truthy (← get) v then v else .str "-"
  | .angle => return .str ("<" ++ text ++ ">")
  | .typeName => return .str (← typeNameOf v)
  | .double => multiply false v (.int 2)

/-- Call a primitive; those that are no built-in function have one parameter. -/
def callPrimitive (p : Primitive) (args : List Value) (keywords : List (String × Value)) :
    Eval Value := do
  let one (path param : String) : Eval Value := do
    match ← argumentsFor path [param] 1 args keywords with
    | [v] => applyPrimitive p v
    | _ => return .none
  match p with
  | .plain => toText args keywords
  | .length => if keywords.isEmpty then callPlain .len args else noKeywords "len"
  | .written => if keywords.isEmpty then callPlain .repr args else noKeywords "repr"
  | .html => one "html_escape" "value"
  | _ => one "<lambda>" "v"

/-! ## §5. Functions lent from outside. -/

/-- A coroutine that is about to do something. -/
def newCoroutine (t : Task) : Eval Value := new (.coroutine (some t))

/-- The value that a lent function was set up with. -/
def setupOf (setup : List (String × Datum)) (name : String) : Datum :=
  (setup.lookup name).getD .none

/-- Several data out of one. -/
def dataIn : Datum → List Datum
  | .list items | .tuple items => items
  | _ => []

/-- Raise the error that a lent function was set up with. -/
def raiseAsSetUp (setup : List (String × Datum)) : Eval Value := do
  let args ← ofData (dataIn (setupOf setup "args"))
  let name ← (setup.lookup "name").mapM ofDatum
  raise (← instantiate (setupOf setup "type").shown args name)

/-- Keep the current context for those who watch. -/
def observe : Eval Value := do
  modify fun m => { m with observed := m.observed.push m.context }
  return .none

/-- Call a function lent from outside. -/
def callLent (name : String) (setup : List (String × Datum)) (args : List Value) : Eval Value := do
  match name, args with
  | "echo", [v] => return v
  | "upper", [v] => return .str (upper (shown (← get) v))
  | "pair", [v, w] => do
    let m ← get
    return .str (shown m v ++ "/" ++ shown m w)
  | "raise", _ => raiseAsSetUp setup
  | "spy", [] => observe
  | "aspy", [] => newCoroutine (.call (.lent "spy" []) [] [])
  | "fetch", [v] => newCoroutine (.value v)
  | "stream", [] => do new (.stream (← ofData (dataIn (setupOf setup "items"))))
  | _, _ => unsupported (name ++ " with " ++ toString args.length ++ " arguments")

end TagTemplate.Machine
