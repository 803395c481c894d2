/-
# Search patterns

A pattern describes pieces of a text.  Every node says what it needs to know of
the modes it was written under: how letters are compared, whether classes are
those of ASCII, where lines end.

| node | matches |
| --- | --- |
| `one` | a character that passes a test |
| `place` | nothing, at a place between two characters |
| `seq`, `alt`, `rep` | both in a row, either, repetition |
| `group`, `again`, `given` | a piece to be remembered, the same piece once more, a choice by whether it was found |
| `atomic` | as its piece would at first, without a second try |
| `ahead`, `behind` | nothing, where a piece follows or precedes (or does not) |
-/

import Recorder.Text.Blank
import Recorder.Text.Digit
import Recorder.Text.LetterCase
import Recorder.Text.Word

namespace Recorder

/-! ## Characters -/

/-- How letters are compared. -/
inductive CaseRule where
  | exact
  | ascii
  | all
deriving DecidableEq, Repr

namespace CaseRule

/-- The lower case of an ASCII letter. -/
def asciiLower (n : Nat) : Nat := if 65 ≤ n ∧ n ≤ 90 then n + 32 else n

/-- The code point under which a character is compared. -/
def plain : CaseRule → Nat → Nat
  | .exact, n => n
  | .ascii, n => asciiLower n
  | .all, n => Text.lowerCode n

/-- Whether a character of the pattern stands for one of the text; both have
to be ASCII for the quick answer. -/
def agrees (rule : CaseRule) (x n : Nat) : Bool :=
  let a := rule.plain x
  let b := rule.plain n
  a == b || (rule == .all && !(a < 128 && b < 128) && (Text.relatives a).contains b)

end CaseRule

/-- A class of characters. -/
inductive CharClass where
  | digit
  | word
  | blank
deriving DecidableEq, Repr

namespace CharClass

/-- The members of a class, or of its part in ASCII. -/
def holds (cls : CharClass) (asciiOnly : Bool) (c : Char) : Bool :=
  (!asciiOnly || c.toNat < 128) &&
    match cls with
    | .digit => Text.isDecimalDigit c
    | .word => Text.isWordCharacter c
    | .blank => Text.isBlank c && !(asciiOnly && 28 ≤ c.toNat && c.toNat ≤ 31)

end CharClass

/-- A member of a set: a character, a range of them, or a class or what is outside it. -/
inductive SetItem where
  | char (code : Nat)
  | range (first last : Nat)
  | ofClass (cls : CharClass) (asciiOnly negated : Bool)
deriving DecidableEq, Repr

namespace SetItem

/-- The first code point beyond the basic plane. -/
def basicEnd : Nat := 65536

/-- Whether a range beyond the basic plane has the upper case of a character. -/
def rangeHasUpper (first last n : Nat) : Bool :=
  basicEnd ≤ last && first ≤ Text.upperCode n && Text.upperCode n ≤ last

/-- Whether a range has a character that agrees with one of the text, whose lower
case is `n`.  Beyond the basic plane only `n` and its upper case count. -/
def rangeAgrees (first last n : Nat) : Bool :=
  (first ≤ n && n ≤ last) ||
    (if n < 128 && last < 128 then (first ≤ n - 32 && n - 32 ≤ last && 97 ≤ n && n ≤ 122)
     else
      ((Text.relatives n).flatMap Text.lowerOrigins).any
          (fun m => first ≤ m && m ≤ last && m < basicEnd) ||
        rangeHasUpper first last n)

/-- Whether a character of a text is a member. -/
def holds (rule : CaseRule) (c : Char) : SetItem → Bool
  | .char x => match rule with
    | .all => if Text.lowerCode x < basicEnd then rule.agrees x c.toNat else Text.lowerCode c.toNat == x
    | _ => rule.agrees x c.toNat
  | .range first last => match rule with
    | .exact => first ≤ c.toNat && c.toNat ≤ last
    | .ascii =>
      let n := CaseRule.asciiLower c.toNat
      (first ≤ n && n ≤ last) || (97 ≤ n && n ≤ 122 && first ≤ n - 32 && n - 32 ≤ last) ||
        rangeHasUpper first last n
    | .all => rangeAgrees first last (Text.lowerCode c.toNat)
  | .ofClass cls asciiOnly negated => cls.holds asciiOnly c != negated

end SetItem

/-- A test of one character. -/
inductive CharTest where
  | any (lineFeedToo : Bool)
  | char (rule : CaseRule) (negated : Bool) (code : Nat)
  | set (rule : CaseRule) (negated : Bool) (items : List SetItem)
deriving DecidableEq, Repr

def CharTest.holds (c : Char) : CharTest → Bool
  | .any lineFeedToo => lineFeedToo || c != '\n'
  | .char rule negated x => rule.agrees x c.toNat != negated
  | .set rule negated items => items.any (·.holds rule c) != negated

/-! ## Places -/

/-- A place between two characters. -/
inductive Place where
  | textStart
  | textEnd
  | lineStart
  | lineEnd
  /-- The end of a text, or before its final line feed. -/
  | lastLineEnd
  | edge (asciiOnly : Bool)
  | inside (asciiOnly : Bool)
deriving DecidableEq, Repr

namespace Place

def isWordAt (text : Array Char) (asciiOnly : Bool) (i : Nat) : Bool :=
  text[i]?.any (CharClass.word.holds asciiOnly)

/-- Whether a word starts or ends at a position. -/
def isEdge (text : Array Char) (asciiOnly : Bool) (i : Nat) : Bool :=
  (i != 0 && isWordAt text asciiOnly (i - 1)) != isWordAt text asciiOnly i

/-- Whether a position of a text is such a place.  An empty text has neither an
edge nor an inside of words. -/
def holds (text : Array Char) (i : Nat) : Place → Bool
  | .textStart => i == 0
  | .textEnd => i == text.size
  | .lineStart => i == 0 || text[i - 1]? == some '\n'
  | .lineEnd => i == text.size || text[i]? == some '\n'
  | .lastLineEnd => i == text.size || (i + 1 == text.size && text[i]? == some '\n')
  | .edge asciiOnly => isEdge text asciiOnly i
  | .inside asciiOnly => text.size != 0 && !isEdge text asciiOnly i

end Place

/-! ## Patterns -/

/-- Which number of rounds a repetition tries first, and whether it tries others. -/
inductive Greed where
  | most
  | fewest
  | mostOnly
deriving DecidableEq, Repr

/-- **A search pattern.** -/
inductive Pattern where
  | empty
  | one (test : CharTest)
  | place (p : Place)
  | seq (p q : Pattern)
  | alt (p q : Pattern)
  | rep (greed : Greed) (least : Nat) (most : Option Nat) (p : Pattern)
  | group (number : Nat) (p : Pattern)
  | again (rule : CaseRule) (number : Nat)
  | given (number : Nat) (yes no : Pattern)
  | atomic (p : Pattern)
  | ahead (negated : Bool) (p : Pattern)
  | behind (negated : Bool) (width : Nat) (p : Pattern)
deriving Repr

namespace Pattern

/-- The least and the greatest number of characters a pattern takes up. -/
abbrev Width := Nat × Option Nat

/-- The width of a repetition.  A piece without characters has none however often,
and no round at all has none either. -/
def Width.rounds (least : Nat) (most : Option Nat) : Width → Width
  | (lo, hi) =>
    (lo * least,
      if hi = some 0 ∨ most = some 0 then some 0 else hi.bind fun h => most.map (h * ·))

/-- The width of a pattern, where `groups` has those of the groups it refers to. -/
def width (groups : List (Nat × Width)) : Pattern → Width
  | .empty | .place _ | .ahead _ _ | .behind _ _ _ => (0, some 0)
  | .one _ => (1, some 1)
  | .seq p q =>
    let (a, b) := p.width groups
    let (c, d) := q.width groups
    (a + c, b.bind fun x => d.map (x + ·))
  | .alt p q | .given _ p q =>
    let (a, b) := p.width groups
    let (c, d) := q.width groups
    (min a c, b.bind fun x => d.map (max x ·))
  | .rep _ least most p => (p.width groups).rounds least most
  | .group _ p | .atomic p => p.width groups
  | .again _ number => (groups.lookup number).getD (0, none)

/-- The numbers of the groups that a pattern refers to. -/
def asked : Pattern → List Nat
  | .empty | .one _ | .place _ => []
  | .seq p q | .alt p q => p.asked ++ q.asked
  | .rep _ _ _ p | .group _ p | .atomic p | .ahead _ p | .behind _ _ p => p.asked
  | .again _ number => [number]
  | .given number p q => number :: (p.asked ++ q.asked)

/-- A pattern that remembers only the groups of some numbers. -/
def keeping (numbers : List Nat) : Pattern → Pattern
  | .seq p q => .seq (p.keeping numbers) (q.keeping numbers)
  | .alt p q => .alt (p.keeping numbers) (q.keeping numbers)
  | .rep greed least most p => .rep greed least most (p.keeping numbers)
  | .group number p =>
    if numbers.contains number then .group number (p.keeping numbers) else p.keeping numbers
  | .given number p q => .given number (p.keeping numbers) (q.keeping numbers)
  | .atomic p => .atomic (p.keeping numbers)
  | .ahead negated p => .ahead negated (p.keeping numbers)
  | .behind negated n p => .behind negated n (p.keeping numbers)
  | p => p

end Pattern
end Recorder
