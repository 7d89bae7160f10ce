/-
Reading a natural number below a limit from its decimal digits, with an optional plus sign before them. The text is read
from the left and the first offence decides: a character that is no digit, or a digit that takes the number to the limit.
-/

namespace BatchEval.Text

/-- why a text is no number below the limit -/
inductive NumberError
  | empty
  | invalidDigit
  | tooLarge
deriving DecidableEq

/-- the name that messages use -/
def NumberError.name : NumberError → String
  | .empty => "Empty"
  | .invalidDigit => "InvalidDigit"
  | .tooLarge => "PosOverflow"

namespace Natural

/-- reads the digits on after those that made `value` -/
def readDigits (limit : Nat) (value : Nat) : List Char → Except NumberError Nat
  | [] => .ok value
  | c :: rest =>
    if c.isDigit then
      let next := 10 * value + (c.toNat - '0'.toNat)
      if next < limit then readDigits limit next rest else .error .tooLarge
    else .error .invalidDigit

/-- reads a number below `limit` -/
def read (limit : Nat) (s : String) : Except NumberError Nat :=
  match s.toList with
  | [] => .error .empty
  | ['+'] => .error .invalidDigit
  | '+' :: digits => readDigits limit 0 digits
  | digits => readDigits limit 0 digits

end Natural

end BatchEval.Text
