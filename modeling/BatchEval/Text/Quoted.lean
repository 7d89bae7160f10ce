/-
Texts between double quotes, so that a message shows every character of the text it complains about. A quote and a
backslash take a backslash, four control characters have short names, and every other character that draws nothing on
its own is written by its code point.
-/
import BatchEval.Text.Invisible

namespace BatchEval.Text

/-- how one character is written between quotes -/
def escape (c : Char) : String :=
  if c = '\x00' then "\\0"
  else if c = '\t' then "\\t"
  else if c = '\r' then "\\r"
  else if c = '\n' then "\\n"
  else if c = '"' then "\\\""
  else if c = '\\' then "\\\\"
  else if isInvisible c then "\\u\x7b" ++ String.ofList (Nat.toDigits 16 c.toNat) ++ "\x7d"
  else c.toString

/-- the text between double quotes -/
def quoted (s : String) : String := "\"" ++ String.join (s.toList.map escape) ++ "\""

end BatchEval.Text
