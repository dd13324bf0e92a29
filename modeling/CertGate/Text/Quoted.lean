import CertGate.Text.Digits
import CertGate.Text.Printable

/-!
# Quoted texts

`quoted s` shows a text on one line of printable characters. The quote is the apostrophe, or the
double quote when the text holds an apostrophe and no double quote. The backslash and the quote in
use get a backslash, the three usual line controls a letter, and every other character without a
visible form its code point in two, four or eight hexadecimal digits.
-/

namespace CertGate.Text

def quoteFor (cs : List Char) : Char :=
  if '\'' ∈ cs && '"' ∉ cs then '"' else '\''

def quotedChar (quote c : Char) : List Char :=
  if c = quote || c = '\\' then ['\\', c]
  else if c = '\n' then ['\\', 'n']
  else if c = '\r' then ['\\', 'r']
  else if c = '\t' then ['\\', 't']
  else if isPrintable c then [c]
  else if c.toNat < 0x100 then '\\' :: 'x' :: padded 16 2 c.toNat
  else if c.toNat < 0x10000 then '\\' :: 'u' :: padded 16 4 c.toNat
  else '\\' :: 'U' :: padded 16 8 c.toNat

/-- The text between quotes, with escapes for all that has no visible form. -/
def quoted (s : String) : String :=
  let quote := quoteFor s.toList
  String.ofList (quote :: s.toList.flatMap (quotedChar quote) ++ [quote])

end CertGate.Text
