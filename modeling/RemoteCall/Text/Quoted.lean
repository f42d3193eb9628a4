import RemoteCall.Text.Printable

/-!
# Quoted text

The form in which a text appears inside a message or a log line that must show exactly what it
holds: between double quotes, with a backslash in front of a quote or a backslash, short names for
the common controls, and the number of every other character that has no visible form.
-/

namespace RemoteCall.Text

/-- A number in base 16, with no leading zeros. -/
def hex (n : Nat) : String :=
  String.ofList (Nat.toDigits 16 n)

/-- How one character is written between quotes. -/
def escape (c : Char) : String :=
  if c = '"' then "\\\""
  else if c = '\\' then "\\\\"
  else if c = '\n' then "\\n"
  else if c = '\t' then "\\t"
  else if c = '\r' then "\\r"
  else if c = '\x00' then "\\0"
  else if isPrintable c then String.singleton c
  else "\\u\x7b" ++ hex c.toNat ++ "\x7d"

/-- A text between double quotes, with every character that needs it escaped. -/
def quoted (s : String) : String :=
  "\"" ++ String.join (s.toList.map escape) ++ "\""

end RemoteCall.Text
