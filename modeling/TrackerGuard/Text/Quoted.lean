import TrackerGuard.Text.Printable

/-!
# Quoted characters and texts

How an error message shows a character or a text of its input: between quotes, with the quote and
the backslash escaped, tab, line feed, carriage return and the zero character by their short
escapes, and every other character that does not print by its code point, `\u{200b}`, in lower-case
hexadecimal digits without leading zeros.
-/

namespace TrackerGuard.Text

/-- The hexadecimal digit of a number below sixteen. -/
def hexDigit (n : Nat) : Char := Char.ofNat (if n < 10 then 48 + n else 87 + n)

/-- The hexadecimal digits of a number, without leading zeros. -/
def hexDigits (n : Nat) : List Char :=
  if n < 16 then [hexDigit n] else hexDigits (n / 16) ++ [hexDigit (n % 16)]

/-- A character inside quotes of the given kind. -/
def escapeWithin (quote : Char) (c : Char) : List Char :=
  if c = quote ∨ c = '\\' then ['\\', c]
  else if c = '\t' then ['\\', 't']
  else if c = '\n' then ['\\', 'n']
  else if c = '\r' then ['\\', 'r']
  else if c.toNat = 0 then ['\\', '0']
  else if isPrintable c then [c]
  else ['\\', 'u', '\x7b'] ++ hexDigits c.toNat ++ ['\x7d']

/-- A character between single quotes. -/
def quoteChar (c : Char) : String :=
  String.ofList ('\'' :: escapeWithin '\'' c ++ ['\''])

/-- A text between double quotes. -/
def quote (s : String) : String :=
  String.ofList ('"' :: s.toList.flatMap (escapeWithin '"') ++ ['"'])

end TrackerGuard.Text
