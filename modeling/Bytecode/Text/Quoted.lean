import Bytecode.Text.Hex
import Bytecode.Text.Printable

/-!
# Quoted literals

A text is shown between quotes, on one line, with everything unprintable escaped.  Single quotes are
used unless the text holds a single quote and no double quote.
-/

namespace Bytecode.Text

/-- The single quote. -/
def singleQuote : Char := '\x27'

/-- The double quote. -/
def doubleQuote : Char := '\x22'

/-- The backslash. -/
def backslash : Char := '\x5c'

/-- The quote around a literal of `s`: the `doubleQuote` where that saves an escape, the
`singleQuote` otherwise. -/
def quoteFor (s : List Char) : Char :=
  if s.contains singleQuote && !s.contains doubleQuote then doubleQuote else singleQuote

/-- The character `c` inside a literal.  The `backslash` and the enclosing `quote` are escaped by a
backslash; tab, line feed and carriage return have letters of their own; any other character that is
not `isPrintable` is written by its code point in two, four or eight digits, as few as hold it. -/
def quoteChar (quote c : Char) : String :=
  if c = backslash || c = quote then String.ofList [backslash, c]
  else if c = '\t' then "\\t"
  else if c = '\n' then "\\n"
  else if c = '\r' then "\\r"
  else if isPrintable c then String.ofList [c]
  else if c.toNat < 0x100 then "\\x" ++ hexLower 2 c.toNat
  else if c.toNat < 0x10000 then "\\u" ++ hexLower 4 c.toNat
  else "\\U" ++ hexLower 8 c.toNat

/-- The text `s` as a literal, between quotes of `quoteFor` and character by character by
`quoteChar`. -/
def quoted (s : String) : String :=
  let quote := quoteFor s.toList
  String.ofList [quote] ++ String.join (s.toList.map (quoteChar quote)) ++ String.ofList [quote]

end Bytecode.Text
