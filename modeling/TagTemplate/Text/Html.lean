/-
  TagTemplate.Text.Html
  ────────────────────────────────
  **ESCAPING FOR MARKUP.**

  The five characters that markup gives a meaning become character
  references, in one pass, so that the text can be read back.
-/

namespace TagTemplate.Text

/-- The reference of a character, or the character itself. -/
def htmlReference (c : Char) : List Char :=
  if c == '&' then "&amp;".toList
  else if c == '<' then "&lt;".toList
  else if c == '>' then "&gt;".toList
  else if c == '"' then "&quot;".toList
  else if c == '\'' then "&#39;".toList
  else [c]

/-- A text with its five special characters escaped. -/
def htmlEscape (s : List Char) : List Char := s.flatMap htmlReference

/-- A string with its five special characters escaped. -/
def htmlEscaped (s : String) : String := String.ofList (htmlEscape s.toList)

end TagTemplate.Text
