/-! JSON values as they are written, in a compact and in an indented form. Numbers are whole. -/

namespace Checkpointing
set_option autoImplicit false

inductive Json where
  | null
  | bool (b : Bool)
  | number (n : Int)
  | string (s : String)
  | object (members : List (String × Json))

namespace Json

/-- One character of a string. Only quotes, backslashes and controls are escaped. -/
def escapedChar (c : Char) : List Char :=
  if c = '"' ∨ c = '\\' then ['\\', c]
  else if c = '\x08' then ['\\', 'b']
  else if c = '\t' then ['\\', 't']
  else if c = '\n' then ['\\', 'n']
  else if c = '\x0c' then ['\\', 'f']
  else if c = '\r' then ['\\', 'r']
  else if c.toNat < 0x20 then
    ['\\', 'u', '0', '0', Nat.digitChar (c.toNat / 16), Nat.digitChar (c.toNat % 16)]
  else [c]

def stringChars (s : String) : List Char := '"' :: s.toList.flatMap escapedChar ++ ['"']

/-- Where blanks go: before members and closing braces, by depth, and after colons. -/
structure Style where
  gap : Nat → List Char
  colon : List Char

def Style.compact : Style := ⟨fun _ => [], [':']⟩

/-- Each member on a line of its own, indented by two blanks for each level. -/
def Style.indented : Style := ⟨fun depth => '\n' :: List.replicate (2 * depth) ' ', [':', ' ']⟩

mutual

def chars (style : Style) (depth : Nat) : Json → List Char
  | .null => "null".toList
  | .bool b => (toString b).toList
  | .number n => (toString n).toList
  | .string s => stringChars s
  | .object members =>
    if members.isEmpty then "\x7b\x7d".toList
    else
      '\x7b' :: [','].intercalate (memberChars style (depth + 1) members) ++ style.gap depth ++
        ['\x7d']

def memberChars (style : Style) (depth : Nat) : List (String × Json) → List (List Char)
  | [] => []
  | (name, value) :: members =>
    (style.gap depth ++ stringChars name ++ style.colon ++ chars style depth value) ::
      memberChars style depth members

end

def compact (j : Json) : String := String.ofList (chars .compact 0 j)

def indented (j : Json) : String := String.ofList (chars .indented 0 j)

mutual

/-- The members of all objects in the order of their names. -/
def sorted : Json → Json
  | .object members => .object ((sortedMembers members).mergeSort fun a b => decide (a.1 ≤ b.1))
  | j => j

def sortedMembers : List (String × Json) → List (String × Json)
  | [] => []
  | (name, value) :: members => (name, sorted value) :: sortedMembers members

end

end Json
end Checkpointing
