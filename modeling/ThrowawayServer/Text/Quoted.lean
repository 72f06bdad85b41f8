import ThrowawayServer.Text.Printable

/-!
# Quoted texts

A text between double quotes, with a backslash before what could not stand there plainly: quotes,
backslashes, the common controls by a letter, and other unprintable characters by their code point.
-/

set_option autoImplicit false

namespace ThrowawayServer.Text

/-- One character inside quotes. -/
def quotedChar (c : Char) : String :=
  if c = '\x00' then "\\0"
  else if c = '\t' then "\\t"
  else if c = '\r' then "\\r"
  else if c = '\n' then "\\n"
  else if c = '\\' then "\\\\"
  else if c = '\x22' then "\\\""
  else if isPrintable c then c.toString
  else "\\u\x7b" ++ String.ofList (Nat.toDigits 16 c.toNat) ++ "\x7d"

/-- A text between double quotes. -/
def quoted (s : String) : String :=
  "\"" ++ String.join (s.toList.map quotedChar) ++ "\""

end ThrowawayServer.Text
