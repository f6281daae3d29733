import TreeWatch.Text.Quoted

/-!
# JSON strings in ASCII

Everything outside the printable ASCII range is written as an escape of UTF-16 units, so the
written form never breaks a line.
-/

namespace TreeWatch.Text.Json

def unitEscape (n : Nat) : String :=
  "\\u" ++ hexPadded 4 n

def escape (c : Char) : String :=
  if c = '"' then "\\\""
  else if c = '\\' then "\\\\"
  else if c = '\n' then "\\n"
  else if c = '\r' then "\\r"
  else if c = '\t' then "\\t"
  else if c = '\x08' then "\\b"
  else if c = '\x0c' then "\\f"
  else
    let n := c.toNat
    if 32 ≤ n && n ≤ 126 then c.toString
    else if n < 0x10000 then unitEscape n
    else unitEscape (0xd800 + (n - 0x10000) / 0x400) ++ unitEscape (0xdc00 + (n - 0x10000) % 0x400)

def string (s : String) : String :=
  "\"" ++ String.join (s.toList.map escape) ++ "\""

/-- The text with some code points as a JSON string. -/
def codesString (codes : List Nat) : String :=
  let escapeCode (code : Nat) : String :=
    if isHalf code then unitEscape code else escape (Char.ofNat code)
  "\"" ++ String.join (codes.map escapeCode) ++ "\""

def object (fields : List (String × String)) : String :=
  let entries := fields.map fun (k, v) => string k ++ ": " ++ string v
  "\x7b" ++ String.intercalate ", " entries ++ "\x7d"

end TreeWatch.Text.Json
