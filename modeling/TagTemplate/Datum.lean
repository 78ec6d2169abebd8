/-
  TagTemplate.Datum
  ────────────────────────────────
  **DATA HANDED TO TEMPLATES AND OPTIONS.**

  A datum is an immutable value given from outside: the render data, global
  names, and the raw value of an option before it is checked.  Error messages
  show a datum in its written form (`written`), text shows it in its plain
  form (`shown`), which differs for strings only.
-/
import TagTemplate.Tag
import TagTemplate.Text.Quoted

namespace TagTemplate

open Text

/-- A value given from outside. -/
inductive Datum where
  /-- The absent value. -/
  | none
  /-- A truth value. -/
  | bool (b : Bool)
  /-- A whole number of any size. -/
  | int (i : Int)
  /-- A text. -/
  | str (s : String)
  /-- A text that is safe to emit without escaping. -/
  | markup (s : String)
  /-- A list. -/
  | list (items : List Datum)
  /-- A tuple. -/
  | tuple (items : List Datum)
  /-- A mapping with text keys, in insertion order. -/
  | dict (fields : List (String × Datum))
  /-- An object that brings its own markup. -/
  | html (content : Datum)
  /-- An object with attributes. -/
  | object (fields : List (String × Datum))
  /-- A function lent to the templates, with the values it was set up with. -/
  | function (name : String) (setup : List (String × Datum))
  /-- A trim mode. -/
  | trim (mode : TrimMode)
  /-- A tag kind. -/
  | kind (kind : TagKind)
  deriving Inhabited

namespace Datum

/-- A truth value as it is written. -/
def boolText (b : Bool) : String := if b then "True" else "False"

/-- Pieces between brackets; a lone piece of a tuple keeps its comma. -/
def tupleText (pieces : List String) : String :=
  match pieces with
  | [piece] => "(" ++ piece ++ ",)"
  | _ => "(" ++ ", ".intercalate pieces ++ ")"

mutual

/-- The written form of a datum. -/
def written : Datum → String
  | .none => "None"
  | .bool b => boolText b
  | .int i => toString i
  | .str s => quoted s
  | .markup s => quoted s
  | .list items => "[" ++ ", ".intercalate (writtenAll items) ++ "]"
  | .tuple items => tupleText (writtenAll items)
  | .dict fields => "\x7b" ++ ", ".intercalate (writtenFields fields) ++ "\x7d"
  | .html _ => "<html>"
  | .object _ => "<object>"
  | .function name _ => "<function " ++ name ++ ">"
  | .trim m => "<TrimMode." ++ m.name ++ ": '" ++ m.word ++ "'>"
  | .kind k => "<TagKind." ++ k.name ++ ": '" ++ k.letter ++ "'>"

/-- The written forms of several data. -/
def writtenAll : List Datum → List String
  | [] => []
  | d :: rest => written d :: writtenAll rest

/-- The written forms of the entries of a mapping. -/
def writtenFields : List (String × Datum) → List String
  | [] => []
  | (k, d) :: rest => (quoted k ++ ": " ++ written d) :: writtenFields rest

end

/-- The plain form of a datum: a text shows as itself. -/
def shown : Datum → String
  | .str s => s
  | .markup s => s
  | d => written d

/-- The text that a datum is. -/
def text? : Datum → Option String
  | .str s | .markup s => some s
  | _ => Option.none

/-- The name of the type of a datum. -/
def typeName : Datum → String
  | .none => "NoneType"
  | .bool _ => "bool"
  | .int _ => "int"
  | .str _ => "str"
  | .markup _ => "Markup"
  | .list _ => "list"
  | .tuple _ => "tuple"
  | .dict _ => "dict"
  | .html _ => "Html"
  | .object _ => "Obj"
  | .function _ _ => "function"
  | .trim _ => "TrimMode"
  | .kind _ => "TagKind"

/-- Whether a datum counts as true: the absent value, zero and everything empty do not. -/
def truthy : Datum → Bool
  | .none => false
  | .bool b => b
  | .int i => i != 0
  | .str s | .markup s => !s.isEmpty
  | .list items | .tuple items => !items.isEmpty
  | .dict fields => !fields.isEmpty
  | _ => true

end Datum

end TagTemplate
