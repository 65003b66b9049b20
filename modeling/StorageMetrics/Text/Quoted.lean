import StorageMetrics.Text.Hex
import StorageMetrics.Text.Printable

/-
  Quoted text, as messages show it: single quotes, or double quotes when the text holds a single
  quote and no double one. Backslash, the chosen quote and every character without a glyph are
  escaped, so a quoted text is always one printable line.
-/

namespace StorageMetrics.Text

/-- The quote that surrounds a text. -/
def quoteFor (cs : List Char) : Char :=
  if '\'' ∈ cs ∧ '"' ∉ cs then '"' else '\''

/-- The escape of one character: short for tab and line ends, else the narrowest hexadecimal form. -/
def escapeQuoted (quote c : Char) : List Char :=
  if c = quote ∨ c = '\\' then ['\\', c]
  else if c = '\t' then ['\\', 't']
  else if c = '\n' then ['\\', 'n']
  else if c = '\r' then ['\\', 'r']
  else if isPrintable c then [c]
  else if c.toNat < 0x100 then '\\' :: 'x' :: hexDigits 2 c.toNat
  else if c.toNat < 0x10000 then '\\' :: 'u' :: hexDigits 4 c.toNat
  else '\\' :: 'U' :: hexDigits 8 c.toNat

def quotedChars (cs : List Char) : List Char :=
  let quote := quoteFor cs
  quote :: cs.flatMap (escapeQuoted quote) ++ [quote]

def quoted (s : String) : String := String.ofList (quotedChars s.toList)

end StorageMetrics.Text
