import TupleSpace.Regex.Property

/-!
# Quoted text in diagnostics

Diagnostics quote text so that it can be told where it ends: quotes, backslashes and line ends
are escaped, and so is every character that shows nothing of its own or joins the one before.
-/

namespace TupleSpace.Text

open TupleSpace.Regex

/-- Marks that join the character before. A letter never does, even if it extends a cluster. -/
def joining : CharSet :=
  ((binary? "graphemeextend").getD .empty).difference ((category? "l").getD .empty)

def invisibleCategories : List String := ["cc", "cf", "cn", "co", "zl", "zp", "zs"]

/-- What shows nothing by itself, by the latest version of Unicode. A blank is plain enough. -/
def invisible : CharSet :=
  (CharSet.unions (joining :: (binary? "defaultignorablecodepoint").getD .empty ::
    invisibleCategories.map minorCategory)).difference
      ((CharSet.ofTable Unicode.laterVisible).union (.singleton ' '))

def quotedChar (c : Char) : List Char :=
  if c = '"' then ['\\', '"']
  else if c = '\\' then ['\\', '\\']
  else if c = '\n' then ['\\', 'n']
  else if c = '\r' then ['\\', 'r']
  else if c = '\t' then ['\\', 't']
  else if c = '\x00' then ['\\', '0']
  else if c.toNat < 0x7F && 0x20 ≤ c.toNat then [c]
  else if invisible.contains c then
    ['\\', 'u', '\x7b'] ++ Nat.toDigits 16 c.toNat ++ ['\x7d']
  else [c]

def quoted (text : String) : String :=
  "\"" ++ String.ofList (text.toList.flatMap quotedChar) ++ "\""

def quotedList (texts : List String) : String :=
  "[" ++ ", ".intercalate (texts.map quoted) ++ "]"

end TupleSpace.Text
