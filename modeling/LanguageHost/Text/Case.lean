/-!
# Letter case

Names that are compared without regard to case are folded to small letters. The letters are those
of the ASCII and Latin-1 ranges and the two unit signs that fold into them.
-/

namespace LanguageHost

/-- The small letter of a capital; every other character is its own. -/
def lowerChar (c : Char) : Char :=
  let n := c.toNat
  if (0x41 ≤ n && n ≤ 0x5A) || (0xC0 ≤ n && n ≤ 0xDE && n ≠ 0xD7) then Char.ofNat (n + 0x20)
  else if c = '\u212a' then 'k'
  else if c = '\u212b' then 'å'
  else c

/-- A text in small letters. -/
def lowerText (s : String) : String :=
  String.ofList (s.toList.map lowerChar)

end LanguageHost
