/-
# Blank characters

`isSpace` is the Unicode property of white space.  `isBlank` has the four
information separators `U+001C … U+001F` as well.
-/

import Recorder.Text.Ranges

namespace Recorder
namespace Text

/-- The code points of white space, as closed ranges. -/
def spaceRanges : List (Nat × Nat) := [
    (9, 13), (32, 32), (133, 133), (160, 160), (5760, 5760), (8192, 8202),
    (8232, 8233), (8239, 8239), (8287, 8287), (12288, 12288)]

def isSpace (c : Char) : Bool := inRanges spaceRanges c.toNat

def isBlank (c : Char) : Bool := isSpace c || (28 ≤ c.toNat && c.toNat ≤ 31)

/-- A text without the blanks at its ends. -/
def trim (s : String) : String := String.ofList (trimBy isBlank s.toList)

/-- Whether a text has nothing but blanks. -/
def allBlank (s : String) : Bool := s.toList.all isBlank

end Text
end Recorder
