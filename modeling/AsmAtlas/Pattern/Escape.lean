import AsmAtlas.Text.Basic

/-!
# Escaping

In the notation of regular expressions some characters have a meaning of their own; a backslash in
front of one makes it stand for itself.
-/

namespace AsmAtlas

/-- The characters with a meaning of their own, blanks of ASCII among them. -/
def specialChars : Text :=
  "()[]\x7b\x7d?*+-|^$\\.&~# \t\n\r\x0b\x0c".toList

/-- A character written so that it stands for itself. -/
def escapeChar (c : Char) : Text :=
  if specialChars.contains c then ['\\', c] else [c]

end AsmAtlas
