/-!
# Blank characters

The white space that surrounds host names, list entries and settings files.  A character is blank
exactly when it carries the property `White_Space`: the zero-width space, the byte order mark and
the information separators do not, although they print as nothing.

Trimming is stated once for any class of characters: `strip` removes the longest run of the class
at both ends and leaves the inside alone.  `trim` is `strip` for blanks and `stripDots` is `strip`
for the full stop.
-/

namespace TrackerGuard.Text

/-- Characters with the property `White_Space`. -/
def isBlank (c : Char) : Bool :=
  let n := c.toNat
  (0x09 ≤ n && n ≤ 0x0D) || n == 0x20 || n == 0x85 || n == 0xA0 || n == 0x1680 ||
    (0x2000 ≤ n && n ≤ 0x200A) || n == 0x2028 || n == 0x2029 || n == 0x202F || n == 0x205F ||
    n == 0x3000

/-- The text without the characters of a class at its ends. -/
def strip (p : Char → Bool) (cs : List Char) : List Char :=
  ((cs.dropWhile p).reverse.dropWhile p).reverse

/-- The text without blanks at its ends. -/
def trim (cs : List Char) : List Char := strip isBlank cs

/-- The text without full stops at its ends. -/
def stripDots (cs : List Char) : List Char := strip (· == '.') cs

/-- The words of a text: its longest runs without a blank, in order. -/
def words (cs : List Char) : List (List Char) :=
  (cs.splitOnP isBlank).filter (!·.isEmpty)

/-- The number of bytes of the text in UTF-8. -/
def utf8Length (cs : List Char) : Nat := cs.foldl (fun n c => n + c.utf8Size) 0

end TrackerGuard.Text
