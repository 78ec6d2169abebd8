/-
  TagTemplate.Settings.Options
  ────────────────────────────────
  **RAW OPTIONS.**

  Options arrive by name with unchecked values.  Two records are made of
  them, one for the scanner and one for the generator; `debug` and `plugins`
  belong to both.
-/
import TagTemplate.Plugin

namespace TagTemplate

/-- The raw value of an option. -/
inductive Setting where
  /-- A datum. -/
  | data (value : Datum)
  /-- A list of plugins. -/
  | plugins (list : List Plugin)

/-- The written form of a raw value. -/
def Setting.written : Setting → String
  | .data d => d.written
  | .plugins ps => "[" ++ ", ".intercalate (ps.map (·.written)) ++ "]"

/-- The entries of a datum that can be gone through. -/
def entriesOf (d : Datum) : Except Fault (List Datum) :=
  match d with
  | .list items | .tuple items => .ok items
  | .str s | .markup s => .ok (s.toList.map fun c => .str (String.singleton c))
  | .dict fields => .ok (fields.map fun (k, _) => .str k)
  | _ => .error (.script "TypeError" ("'" ++ d.typeName ++ "' object is not iterable"))

/-- Options by name, in the order they were given. -/
abbrev Options := List (String × Setting)

namespace Options

/-- All names, in alphabetical order. -/
def validNames : List String :=
  ["async_mode", "auto_escape", "auto_filter", "auto_trim", "debug", "default_kind",
    "execute_prefix", "function_header", "interpolate_prefix", "plugins", "raw_prefix", "tags",
    "use_with", "var_name"]

/-- The raw value of an option. -/
def find? (o : Options) (name : String) : Option Setting := o.lookup name

/-- The datum of an option, or a default. -/
def datum (o : Options) (name : String) (dflt : Datum) : Datum :=
  match o.find? name with
  | some (.data d) => d
  | _ => dflt

/-- The truth value of an option, or a default. -/
def flag (o : Options) (name : String) (dflt : Bool) : Bool :=
  (o.datum name (.bool dflt)).truthy

/-- The plugins; a datum in the place of a plugin has no hooks. -/
def plugins (o : Options) : Except Fault (List Plugin) :=
  match o.find? "plugins" with
  | some (.plugins ps) => .ok ps
  | some (.data d) => return (← entriesOf d).map fun entry => { written := entry.written }
  | none => .ok []

/-- Put an option in place: an old one keeps its position, a new one goes to the end. -/
def insert (o : Options) (name : String) (value : Setting) : Options :=
  if o.any (·.1 == name) then o.map fun (k, v) => if k == name then (k, value) else (k, v)
  else o ++ [(name, value)]

/-- The written form of all options. -/
def written (o : Options) : String :=
  "\x7b" ++ ", ".intercalate (o.map fun (k, v) => Text.quoted k ++ ": " ++ v.written) ++ "\x7d"

end Options

end TagTemplate
