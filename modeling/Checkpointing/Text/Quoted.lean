import Checkpointing.Text.Printable

/-! Text as error messages quote it: between double quotes, with a backslash before quotes and
backslashes, with short names for four controls, and with other unprintable characters by number. -/

namespace Checkpointing.Text
set_option autoImplicit false

def quotedChar (c : Char) : List Char :=
  if c = '\x00' then ['\\', '0']
  else if c = '\t' then ['\\', 't']
  else if c = '\n' then ['\\', 'n']
  else if c = '\r' then ['\\', 'r']
  else if c = '"' ∨ c = '\\' then ['\\', c]
  else if isPrintable c then [c]
  else "\\u\x7b".toList ++ Nat.toDigits 16 c.toNat ++ ['\x7d']

def quoted (s : String) : String :=
  "\"" ++ String.ofList (s.toList.flatMap quotedChar) ++ "\""

end Checkpointing.Text
