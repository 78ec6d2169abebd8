/-
  TagTemplate.Machine.Member
  ────────────────────────────────
  **MEMBERS OF VALUES.**

  A member is an attribute of an object, or a method of a value that is not
  called yet.  `methodsOf` lists the methods by type; which of them do what is
  said where they are called.
-/
import TagTemplate.Machine.Elements

namespace TagTemplate.Machine

/-- The methods of texts. -/
def textMethods : List String :=
  ["upper", "join", "strip", "lstrip", "rstrip", "split", "splitlines", "replace", "startswith",
    "endswith", "find", "index", "count", "isspace"]

/-- The methods of lists. -/
def listMethods : List String :=
  ["append", "extend", "insert", "pop", "remove", "clear", "copy", "index", "count", "reverse",
    "sort"]

/-- The methods of mappings. -/
def dictMethods : List String :=
  ["get", "items", "keys", "values", "setdefault", "pop", "update", "copy", "clear"]

/-- The methods of environments. -/
def environmentMethods : List String := ["render", "render_async", "new_state", "runtime_error"]

/-- The methods of a value. -/
def methodsOf (v : Value) : Eval (List String) := do
  match v with
  | .str _ => return textMethods
  | .markup _ => return "__html__" :: textMethods
  | .tuple _ => return ["index", "count"]
  | .environment _ => return environmentMethods
  | _ =>
    match ← cellOf? v with
    | some (.list _) => return listMethods
    | some (.dict _) => return dictMethods
    | some (.html _) => return ["__html__"]
    | _ => return []

/-- The attributes of an error. -/
def Raised.attributes (e : Raised) : List (String × Value) :=
  let name := if ErrorClass.isBelow e.className "NameError" then [("name", e.name.getD .none)]
    else (e.name.map fun n => ("name", n)).toList
  let cause := match e.cause with
    | some id => Value.ref id
    | none => .none
  ("args", .tuple e.args) :: ("__cause__", cause) :: name

/-- The attributes of a value. -/
def attributesOf (v : Value) : Eval (List (String × Value)) := do
  match v with
  | .environment id =>
    match (← get).environments[id]? with
    | some e =>
      return [("TemplateError", .errorClass "TemplateError"),
        ("max_include_depth", .int e.environment.maxDepth),
        ("escape", .primitive e.environment.blueprint.escape),
        ("filter", e.filterValue)]
    | none => return []
  | .errorClass name => return [("__name__", .str name)]
  | .builtin b => return [("__name__", .str b.name)]
  | _ =>
    match ← cellOf? v with
    | some (.object _ fields) => return fields
    | some (.error e) => return e.attributes
    | some (.closure c) => return [("__name__", .str c.name)]
    | _ => return []

/-- Raise the error of a member that a value does not have. -/
def noMember (v : Value) (name : String) : Eval α := do
  match v with
  | .errorClass cls =>
    fail "AttributeError" ("type object '" ++ cls ++ "' has no attribute '" ++ name ++ "'")
  | .builtin b =>
    if b.isType then
      fail "AttributeError" ("type object '" ++ b.name ++ "' has no attribute '" ++ name ++ "'")
    else
      fail "AttributeError"
        ("'builtin_function_or_method' object has no attribute '" ++ name ++ "'")
  | _ =>
    fail "AttributeError"
      ("'" ++ (← typeNameOf v) ++ "' object has no attribute '" ++ name ++ "'")

/-- A member of a value. -/
def getMember (v : Value) (name : String) : Eval Value := do
  match (← attributesOf v).lookup name with
  | some w => return w
  | none => if (← methodsOf v).contains name then return .method v name else noMember v name

/-- Fields with one of them set. -/
def withField (fields : List (String × Value)) (name : String) (w : Value) :
    List (String × Value) :=
  if fields.any (·.1 == name) then fields.map fun (k, v) => if k == name then (k, w) else (k, v)
  else fields ++ [(name, w)]

/-- Set a member of a value. -/
def setMember (v : Value) (name : String) (w : Value) : Eval Unit := do
  match v, ← cellOf? v with
  | .ref id, some (.object kind fields) =>
    let known := fields.any (·.1 == name)
    match kind with
    | .plain => setCell id fun _ => .object kind (withField fields name w)
    | .state =>
      if known then setCell id fun _ => .object kind (withField fields name w)
      else noMember v name
    | .options => fail "FrozenInstanceError" ("cannot assign to field '" ++ name ++ "'")
  | _, _ =>
    if (← methodsOf v).contains name then
      fail "AttributeError"
        ("'" ++ (← typeNameOf v) ++ "' object attribute '" ++ name ++ "' is read-only")
    else noMember v name

end TagTemplate.Machine
