import RoutePattern.Text
import RoutePattern.Unicode.GraphemeExtend
import RoutePattern.Unicode.Unprintable

/-!
# Quoted texts

A quoted text stands on one line between double quotes and shows every character: quotes,
backslashes and some controls have short escapes, and a character that is unprintable or joins the
one before it is written by its number.
-/

namespace RoutePattern.Text

def numbered (c : Char) : Text :=
  '\\' :: 'u' :: '{' :: (Nat.toDigits 16 c.toNat ++ ['}'])

def quotedChar (c : Char) : Text :=
  if c = '\x00' then ['\\', '0']
  else if c = '\t' then ['\\', 't']
  else if c = '\r' then ['\\', 'r']
  else if c = '\n' then ['\\', 'n']
  else if c = '\x22' || c = '\\' then ['\\', c]
  else if Unicode.isExtendingMark c || Unicode.isUnprintable c then numbered c
  else [c]

def quoted (t : Text) : Text :=
  '\x22' :: (t.flatMap quotedChar ++ ['\x22'])

end RoutePattern.Text
