/-
  TagTemplate.Script.Token
  ────────────────────────────────
  **TOKENS.**

  A text of code is cut into tokens before it is parsed.  Beside names,
  numbers, strings and operators there are tokens for the end of a statement
  line and for every step of indentation to the right or back.

  Cutting may end early.  What ended it is kept beside the tokens
  (`Ending`), because a parser that never gets there reports its own error,
  unless the ending is one that wins over every other.
-/
import TagTemplate.Text.Classes

namespace TagTemplate.Script

/-! ## §1. Tokens. -/

/-- The kinds of tokens. -/
inductive TokenKind where
  /-- A name. -/
  | name
  /-- A reserved word. -/
  | keyword
  /-- A number. -/
  | number
  /-- A string with its quotes and the letters before them. -/
  | string
  /-- An operator or any other mark. -/
  | mark
  /-- The end of a statement line. -/
  | newline
  /-- A step to the right. -/
  | indent
  /-- A step back to the left. -/
  | dedent
  /-- The end of the text. -/
  | finish
  deriving DecidableEq, Repr, Inhabited

/-- A token with its place. -/
structure Token where
  /-- The kind. -/
  kind : TokenKind
  /-- The characters. -/
  text : String
  /-- The line it starts on. -/
  line : Nat
  /-- The line it ends on. -/
  lastLine : Nat
  /-- The first of the lines that are read as one with its last line. -/
  shownFrom : Nat
  /-- How many brackets are open behind it. -/
  depth : Nat
  deriving Repr, Inhabited

/-! ## §2. How the tokens end. -/

/-- What ends the tokens early. -/
inductive Flaw where
  /-- Characters that make no token. -/
  | malformed (text : String)
  /-- The text is over inside a bracket or behind a continuation mark. -/
  | overEarly
  /-- A line goes back to an indentation that no line before it has. -/
  | unindent
  /-- Tabs and spaces disagree. -/
  | tabs
  /-- The indentation is too deep. -/
  | tooDeep
  /-- Something stands behind a continuation mark. -/
  | continuation
  deriving DecidableEq, Repr, Inhabited

/-- Where and why the tokens end. -/
structure Ending where
  /-- What ended them, if it is not the end of the text. -/
  flaw : Option Flaw := none
  /-- The line of the flaw. -/
  line : Nat := 1
  /-- The line that was being read. -/
  lastLine : Nat := 1
  /-- The first of the lines read as one with it. -/
  shownFrom : Nat := 1
  /-- The line of the innermost open bracket. -/
  bracket : Option Nat := none
  deriving Inhabited

end TagTemplate.Script
