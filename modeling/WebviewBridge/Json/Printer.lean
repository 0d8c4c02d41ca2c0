import WebviewBridge.Json.Value
import WebviewBridge.Decimal.Shortest

/-!
# The text of a JSON value

`Value.text` writes a value without any white space, `Value.pretty` with two blanks of
indentation per level.  Inside a string only the quote, the backslash and the controls below the
space are escaped.  Both are given by functions into lists of characters, on which the reader is
defined too.
-/

namespace WebviewBridge.Json

/-- The escape of one character inside a string. -/
def escapeChar (c : Char) : List Char :=
  if c = '"' then ['\\', '"']
  else if c = '\\' then ['\\', '\\']
  else if c = '\x08' then ['\\', 'b']
  else if c = '\x0c' then ['\\', 'f']
  else if c = '\n' then ['\\', 'n']
  else if c = '\r' then ['\\', 'r']
  else if c = '\t' then ['\\', 't']
  else if c.toNat < 0x10 then ['\\', 'u', '0', '0', '0', Nat.digitChar c.toNat]
  else if c.toNat < 0x20 then ['\\', 'u', '0', '0', '1', Nat.digitChar (c.toNat - 0x10)]
  else [c]

/-- A string between double quotes. -/
def stringChars (s : String) : List Char :=
  '"' :: s.toList.flatMap escapeChar ++ ['"']

/-- An integer in decimal. -/
def intChars (n : Int) : List Char :=
  if n < 0 then '-' :: Nat.toDigits 10 n.natAbs else Nat.toDigits 10 n.natAbs

/-- A number: an integer in decimal, a double with the fewest digits that read back. -/
def Number.chars : Number → List Char
  | .int n => intChars n
  | .double x => x.text

/-- The parts with a comma between them. -/
def separated (comma : List Char) : List (List Char) → List Char
  | [] => []
  | [p] => p
  | p :: q :: ps => p ++ comma ++ separated comma (q :: ps)

namespace Value

mutual
/-- The characters of a value, without white space. -/
def chars : Value → List Char
  | null => ['n', 'u', 'l', 'l']
  | bool true => ['t', 'r', 'u', 'e']
  | bool false => ['f', 'a', 'l', 's', 'e']
  | num n => n.chars
  | str s => stringChars s
  | arr items => '[' :: separated [','] (itemChars items) ++ [']']
  | obj members => '\x7b' :: separated [','] (memberChars members) ++ ['\x7d']
/-- The characters of each item of an array. -/
def itemChars : List Value → List (List Char)
  | [] => []
  | v :: vs => chars v :: itemChars vs
/-- The characters of each member of an object. -/
def memberChars : List (String × Value) → List (List Char)
  | [] => []
  | (k, v) :: ms => (stringChars k ++ ':' :: chars v) :: memberChars ms
end

/-- The text of a value, without white space. -/
def text (v : Value) : String := String.ofList v.chars

/-- A new line and the indentation of a level. -/
def newline (level : Nat) : List Char := '\n' :: List.replicate (2 * level) ' '

mutual
/-- The characters of a value, one item or member a line, at a level of indentation. -/
def prettyChars (level : Nat) : Value → List Char
  | null => ['n', 'u', 'l', 'l']
  | bool true => ['t', 'r', 'u', 'e']
  | bool false => ['f', 'a', 'l', 's', 'e']
  | num n => n.chars
  | str s => stringChars s
  | arr [] => ['[', ']']
  | arr (v :: vs) =>
    '[' :: newline (level + 1)
      ++ separated (',' :: newline (level + 1)) (prettyItems (level + 1) (v :: vs))
      ++ newline level ++ [']']
  | obj [] => ['\x7b', '\x7d']
  | obj (m :: ms) =>
    '\x7b' :: newline (level + 1)
      ++ separated (',' :: newline (level + 1)) (prettyMembers (level + 1) (m :: ms))
      ++ newline level ++ ['\x7d']
/-- The characters of each item of an array at a level of indentation. -/
def prettyItems (level : Nat) : List Value → List (List Char)
  | [] => []
  | v :: vs => prettyChars level v :: prettyItems level vs
/-- The characters of each member of an object at a level of indentation. -/
def prettyMembers (level : Nat) : List (String × Value) → List (List Char)
  | [] => []
  | (k, v) :: ms => (stringChars k ++ ':' :: ' ' :: prettyChars level v) :: prettyMembers level ms
end

/-- The text of a value over several lines, without a final new line. -/
def pretty (v : Value) : String := String.ofList (v.prettyChars 0)

end Value

/-- The text of an object whose members are written in the given order. -/
def recordText (members : List (String × Value)) : String := (Value.obj members).text

end WebviewBridge.Json
