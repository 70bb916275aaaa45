import LateBound.Text.Hidden
import LateBound.Text.Extending
/-! Quoted text. Control characters with a short name, the backslash and the quote itself are
escaped by a backslash; characters that show no glyph or would merge with the one before them are
written as code points. -/
namespace LateBound
namespace Text

def hexDigits (n : Nat) : List Char := Nat.toDigits 16 n

def codePoint (c : Char) : List Char :=
  ['\\', 'u', '\x7b'] ++ hexDigits c.toNat ++ ['\x7d']

def escape (mark c : Char) : List Char :=
  if c = '\x00' then ['\\', '0']
  else if c = '\t' then ['\\', 't']
  else if c = '\r' then ['\\', 'r']
  else if c = '\n' then ['\\', 'n']
  else if c = '\\' ∨ c = mark then ['\\', c]
  else if isExtending c || isHidden c then codePoint c
  else [c]

def enclose (mark : Char) (s : List Char) : String :=
  String.ofList (mark :: s.flatMap (escape mark) ++ [mark])

def quoted (s : String) : String := enclose '"' s.toList

def quotedChar (c : Char) : String := enclose '\'' [c]

end Text

end LateBound
