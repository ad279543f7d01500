import ChainIndex.Text.Numeral
import ChainIndex.Text.Printable

/-!
# ChainIndex.Text.Quoted

Texts and characters quoted inside messages.

The quote and the backslash are escaped by a backslash, as are tab, line feed, carriage
return and NUL; any other character that is not printable is written as its code point in
braces.
-/

namespace ChainIndex.Text

/-- One character between quotes of the kind `quote`. -/
def escapeChar (quote c : Char) : List Char :=
  if c = quote ∨ c = '\\' then ['\\', c]
  else if c = '\n' then ['\\', 'n']
  else if c = '\t' then ['\\', 't']
  else if c = '\r' then ['\\', 'r']
  else if c = '\x00' then ['\\', '0']
  else if isPrintable c then [c]
  else ['\\', 'u', '\x7b'] ++ (hexDigits c.toNat).toList ++ ['\x7d']

/-- A text between double quotes. -/
def quoteText (text : String) : String :=
  String.ofList ('"' :: text.toList.flatMap (escapeChar '"') ++ ['"'])

/-- A character between single quotes. -/
def quoteChar (c : Char) : String :=
  String.ofList ('\'' :: escapeChar '\'' c ++ ['\''])

end ChainIndex.Text
