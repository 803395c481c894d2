/-
# Quoted text

A text in quotes, on one line: the apostrophe encloses it unless the text has an
apostrophe and no quotation mark.

| character | written |
| --- | --- |
| the enclosing mark, `\` | after a `\` |
| line feed, carriage return, tab | `\n`, `\r`, `\t` |
| not printable, below `U+0100` | `\xNN` |
| not printable, below `U+10000` | `\uNNNN` |
| not printable, others | `\UNNNNNNNN` |
| any other | as it is |
-/

import Recorder.Text.Printable

namespace Recorder
namespace Text

/-- `n` in lower-case hexadecimal, at least `width` digits. -/
def hexDigits (width n : Nat) : List Char :=
  let ds := Nat.toDigits 16 n
  List.replicate (width - ds.length) '0' ++ ds

/-- A character inside marks. -/
def quoteChar (mark c : Char) : List Char :=
  if c = mark ∨ c = '\\' then ['\\', c]
  else if c = '\n' then ['\\', 'n']
  else if c = '\r' then ['\\', 'r']
  else if c = '\t' then ['\\', 't']
  else if isPrintable c then [c]
  else if c.toNat < 0x100 then '\\' :: 'x' :: hexDigits 2 c.toNat
  else if c.toNat < 0x10000 then '\\' :: 'u' :: hexDigits 4 c.toNat
  else '\\' :: 'U' :: hexDigits 8 c.toNat

/-- The mark that encloses a text. -/
def quoteMark (cs : List Char) : Char :=
  if cs.contains '\'' && !cs.contains '"' then '"' else '\''

/-- **Quoted text.** -/
def quoted (s : String) : String :=
  let mark := quoteMark s.toList
  String.ofList (mark :: s.toList.flatMap (quoteChar mark) ++ [mark])

end Text
end Recorder
