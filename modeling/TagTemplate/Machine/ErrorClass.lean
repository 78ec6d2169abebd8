/-
  TagTemplate.Machine.ErrorClass
  ────────────────────────────────
  **CLASSES OF ERRORS.**

  Errors are handled by class, and a class stands for all classes below it.
  `above` is the path from a class to the root; `isBelow` says whether one
  class stands for another.
-/
namespace TagTemplate.Machine.ErrorClass

/-- The class directly above each class that is not the root. -/
def table : List (String × String) :=
  [("Exception", "BaseException"), ("GeneratorExit", "BaseException"),
    ("KeyboardInterrupt", "BaseException"), ("SystemExit", "BaseException"),
    ("BaseExceptionGroup", "BaseException"), ("ExceptionGroup", "BaseExceptionGroup"),
    ("ArithmeticError", "Exception"), ("AssertionError", "Exception"),
    ("AttributeError", "Exception"), ("BufferError", "Exception"), ("EOFError", "Exception"),
    ("ImportError", "Exception"), ("LookupError", "Exception"), ("MemoryError", "Exception"),
    ("NameError", "Exception"), ("OSError", "Exception"), ("ReferenceError", "Exception"),
    ("RuntimeError", "Exception"), ("StopAsyncIteration", "Exception"),
    ("StopIteration", "Exception"), ("SyntaxError", "Exception"), ("SystemError", "Exception"),
    ("TypeError", "Exception"), ("ValueError", "Exception"), ("Warning", "Exception"),
    ("FloatingPointError", "ArithmeticError"), ("OverflowError", "ArithmeticError"),
    ("ZeroDivisionError", "ArithmeticError"), ("ModuleNotFoundError", "ImportError"),
    ("IndexError", "LookupError"), ("KeyError", "LookupError"), ("UnboundLocalError", "NameError"),
    ("BlockingIOError", "OSError"), ("ChildProcessError", "OSError"),
    ("ConnectionError", "OSError"), ("BrokenPipeError", "ConnectionError"),
    ("ConnectionAbortedError", "ConnectionError"), ("ConnectionRefusedError", "ConnectionError"),
    ("ConnectionResetError", "ConnectionError"), ("FileExistsError", "OSError"),
    ("FileNotFoundError", "OSError"), ("InterruptedError", "OSError"),
    ("IsADirectoryError", "OSError"), ("NotADirectoryError", "OSError"),
    ("PermissionError", "OSError"), ("ProcessLookupError", "OSError"), ("TimeoutError", "OSError"),
    ("NotImplementedError", "RuntimeError"), ("RecursionError", "RuntimeError"),
    ("IndentationError", "SyntaxError"), ("TabError", "IndentationError"),
    ("UnicodeError", "ValueError"), ("UnicodeDecodeError", "UnicodeError"),
    ("UnicodeEncodeError", "UnicodeError"), ("UnicodeTranslateError", "UnicodeError"),
    ("BytesWarning", "Warning"), ("DeprecationWarning", "Warning"),
    ("EncodingWarning", "Warning"), ("FutureWarning", "Warning"), ("ImportWarning", "Warning"),
    ("PendingDeprecationWarning", "Warning"), ("ResourceWarning", "Warning"),
    ("RuntimeWarning", "Warning"), ("SyntaxWarning", "Warning"), ("UnicodeWarning", "Warning"),
    ("UserWarning", "Warning"), ("FrozenInstanceError", "AttributeError"),
    ("SilentError", "Exception"), ("TemplateError", "Exception"),
    ("ConfigurationError", "TemplateError"), ("TemplateNotFoundError", "TemplateError"),
    ("TemplateSyntaxError", "TemplateError"), ("TemplateRuntimeError", "TemplateError"),
    ("UndefinedError", "TemplateRuntimeError"), ("IncludeDepthError", "TemplateRuntimeError")]

/-- A class and all classes above it; `fuel` bounds the length of the path. -/
def pathUp : Nat → String → List String
  | 0, name => [name]
  | fuel + 1, name =>
    match table.lookup name with
    | some parent => name :: pathUp fuel parent
    | none => [name]

/-- A class and all classes above it. -/
def above (name : String) : List String := pathUp table.length name

/-- Whether a class is another one or below it. -/
def isBelow (name other : String) : Bool := (above name).contains other

/-- The classes of faults that the operating system numbers. -/
def numbered : List (Int × String) :=
  [(1, "PermissionError"), (2, "FileNotFoundError"), (3, "ProcessLookupError"),
    (4, "InterruptedError"), (10, "ChildProcessError"), (11, "BlockingIOError"),
    (13, "PermissionError"), (17, "FileExistsError"), (20, "NotADirectoryError"),
    (21, "IsADirectoryError"), (32, "BrokenPipeError"), (103, "ConnectionAbortedError"),
    (104, "ConnectionResetError"), (108, "BrokenPipeError"), (110, "TimeoutError"),
    (111, "ConnectionRefusedError"), (114, "BlockingIOError"), (115, "BlockingIOError")]

/-- The classes that scripts know by name. -/
def known (name : String) : Option String :=
  match name with
  | "IOError" | "EnvironmentError" => some "OSError"
  | "BaseException" => some name
  | _ =>
    let own := ["FrozenInstanceError", "SilentError"]
    if own.contains name || isBelow name "TemplateError" then none
    else (table.lookup name).map fun _ => name

end TagTemplate.Machine.ErrorClass
