import LispHost.Text.Glyph
import LispHost.Text.Mark
import LispHost.Word

/-!
Texts in double quotes as messages show them.

The quote, the backslash and the common control characters have short escapes. A character that has no
glyph of its own, or that would attach to the one before it, is shown by its number.
-/

set_option autoImplicit false

namespace LispHost.Text

def quotedChar (c : Char) : List Char :=
  if c = '\x00' then ['\\', '0']
  else if c = '\t' then ['\\', 't']
  else if c = '\r' then ['\\', 'r']
  else if c = '\n' then ['\\', 'n']
  else if c = '"' then ['\\', '"']
  else if c = '\\' then ['\\', '\\']
  else if hasGlyph c && !isExtending c then [c]
  else '\\' :: 'u' :: '\x7b' :: (hexDigits c.toNat ++ ['\x7d'])

def quoted (s : String) : String :=
  String.ofList ('"' :: (s.toList.flatMap quotedChar ++ ['"']))

end LispHost.Text
