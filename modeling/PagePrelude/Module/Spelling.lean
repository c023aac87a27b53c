import PagePrelude.Json.Quoted

/-!
# Spelling strings

How a string is written in module code. It stands between double quotes, or between
single ones if it holds more double quotes than single ones.
-/

namespace PagePrelude.Module

/-- Two hexadecimal digits. -/
def twoDigits (n : Nat) : List Char :=
  [Json.hexDigit (n / 16 % 16), Json.hexDigit (n % 16)]

/-- How a character is written between quotes. -/
def spelledChar (quote c : Char) : List Char :=
  if c = quote || c = '\\' then ['\\', c]
  else if c = '\n' then ['\\', 'n']
  else if c = '\r' then ['\\', 'r']
  else if c = '\x08' then ['\\', 'b']
  else if c = '\x0c' then ['\\', 'f']
  else if c = '\x0b' then ['\\', 'v']
  else if c = '\t' then ['\t']
  else if c.toNat < 0x20 then ['\\', 'x'] ++ twoDigits c.toNat
  else if c = '\u2028' || c = '\u2029' then
    ['\\', 'u'] ++ twoDigits (c.toNat / 256) ++ twoDigits c.toNat
  else if c = '\uFEFF' then "\\uFEFF".toList
  else [c]

/-- How a string is written. -/
def spelledString (text : String) : String :=
  let chars := text.toList
  let quote := if chars.count '"' > chars.count '\'' then '\'' else '"'
  String.ofList (quote :: chars.flatMap (spelledChar quote) ++ [quote])

end PagePrelude.Module
