import MaskedInput.Text.Basic

/-!
# JSON

JSON values whose numbers are natural numbers, and their printed form: two blanks more for each
level, one item or field a line, and only what JSON requires escaped.
-/
namespace MaskedInput

inductive Json where
  | null
  | bool (b : Bool)
  | number (n : Nat)
  | string (t : Text)
  | array (items : List Json)
  /-- The fields in the order in which they are printed. -/
  | object (fields : List (String × Json))
  deriving Inhabited

namespace Json

def ofOption {α : Type} (f : α → Json) : Option α → Json
  | none => .null
  | some a => f a

/-- A character as it stands in a string. -/
def escape (c : Char) : Text :=
  if c = '"' then ['\\', '"']
  else if c = '\\' then ['\\', '\\']
  else if c = '\n' then ['\\', 'n']
  else if c = '\r' then ['\\', 'r']
  else if c = '\t' then ['\\', 't']
  else if c = '\x08' then ['\\', 'b']
  else if c = '\x0c' then ['\\', 'f']
  else if c.toNat < 32 then
    ['\\', 'u', '0', '0', Nat.digitChar (c.toNat / 16), Nat.digitChar (c.toNat % 16)]
  else [c]

def printString (t : Text) : Text := ['"'] ++ t.flatMap escape ++ ['"']

/-- The start of a line at a level. -/
def newLine (level : Nat) : Text := '\n' :: List.replicate (2 * level) ' '

mutual

/-- The printed form of a value that stands at a level. -/
def print (level : Nat) : Json → Text
  | .null => "null".toList
  | .bool true => "true".toList
  | .bool false => "false".toList
  | .number n => (toString n).toList
  | .string t => printString t
  | .array [] => "[]".toList
  | .array (v :: vs) =>
    ['['] ++ newLine (level + 1) ++ print (level + 1) v ++ printItems (level + 1) vs ++
      newLine level ++ [']']
  | .object [] => ['{', '}']
  | .object ((k, v) :: fs) =>
    ['{'] ++ newLine (level + 1) ++ printString k.toList ++ [':', ' '] ++ print (level + 1) v ++
      printFields (level + 1) fs ++ newLine level ++ ['}']

/-- The items after the first. -/
def printItems (level : Nat) : List Json → Text
  | [] => []
  | v :: vs => [','] ++ newLine level ++ print level v ++ printItems level vs

/-- The fields after the first. -/
def printFields (level : Nat) : List (String × Json) → Text
  | [] => []
  | (k, v) :: fs =>
    [','] ++ newLine level ++ printString k.toList ++ [':', ' '] ++ print level v ++
      printFields level fs

end

end Json

end MaskedInput
