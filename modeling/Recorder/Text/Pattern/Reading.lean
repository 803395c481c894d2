/-
# Reading search patterns

The syntax of the patterns in `ignore_locators` (`SPEC_FULL.md` §2).

| written | read as |
| --- | --- |
| `c`, `\c` | the character `c` (after `\`: not an ASCII letter or digit) |
| `\n` and the like, `\N{DIGIT ONE}`, `\x41`, `\u0041`, `\U00000041`, `\101` | a character by name or number |
| `.` | anything but a line feed |
| `\d`, `\w`, `\s` (`\D`, `\W`, `\S`) | a decimal digit, a word character, a blank (anything else) |
| `[a-z]`, `[^a-z]` | a character of the set, of none |
| `^`, `$`, `\A`, `\Z`, `\b`, `\B` | a place |
| `p q`, `p\|q`, `(p)`, `(?:p)`, `(?P<name>p)` | both in a row; either; a group |
| `p*`, `p+`, `p?`, `p{n}`, `p{n,m}` | repetition, as often as possible |
| `p*?`, `p*+` | as rarely as possible; as often as possible and never less |
| `\1`, `(?P=name)`, `(?(1)p\|q)` | a group once more; a choice by whether it was found |
| `(?=p)`, `(?!p)`, `(?<=p)`, `(?<!p)`, `(?>p)` | what is ahead, what is behind, an atomic piece |
| `(?#…)`, `(?imsxau)`, `(?i-s:p)` | a comment; modes for all that follows, or for a piece |

A repetition of a repetition or of a place is malformed.  What is behind has to
have one width.  Alternatives that are single characters or sets make one set.
-/

import Recorder.Text.CharacterName
import Recorder.Text.Integer
import Recorder.Text.Pattern.Basic

namespace Recorder

/-- Why a pattern cannot be read. -/
inductive PatternError where
  | malformed
  | tooManyRounds
  | tooManyDigits (count : Nat)
  | contraryModes
  /-- A hexadecimal number of more than 31 bits. -/
  | codeTooLarge
  /-- Too many parentheses inside one another. -/
  | tooDeep
deriving DecidableEq, Repr

/-- The complaint about a pattern, where there is more to say than that it is malformed. -/
def PatternError.message : PatternError → String
  | .malformed => "malformed pattern"
  | .tooManyRounds => "the repetition number is too large"
  | .tooManyDigits count => tooManyDigitsMessage count
  | .contraryModes => "ASCII and UNICODE flags are incompatible"
  | .codeTooLarge => "Python int too large to convert to C int"
  | .tooDeep => "too many parentheses inside one another"

namespace Pattern

/-- The modes under which a part of a pattern is read. -/
structure Modes where
  ignoreCase : Bool := true
  asciiOnly : Bool := false
  manyLines : Bool := false
  lineFeedToo : Bool := false
  spaced : Bool := false
deriving DecidableEq, Repr

namespace Modes

def rule (m : Modes) : CaseRule :=
  if !m.ignoreCase then .exact else if m.asciiOnly then .ascii else .all

/-- Modes with one switched on or off by its letter. -/
def switch (m : Modes) (on : Bool) : Char → Modes
  | 'i' => { m with ignoreCase := on }
  | 'a' => { m with asciiOnly := on }
  | 'u' => { m with asciiOnly := !on }
  | 'm' => { m with manyLines := on }
  | 's' => { m with lineFeedToo := on }
  | 'x' => { m with spaced := on }
  | _ => m

def letters : List Char := "iLmsxatu".toList

end Modes

/-- What is left of a pattern and what has been learned from the part before. -/
structure Reading where
  rest : List Char
  modes : Modes := {}
  /-- How many parentheses lie around. -/
  depth : Nat := 0
  /-- The number of groups begun. -/
  opened : Nat := 0
  /-- The widths of the groups that have ended. -/
  closed : List (Nat × Width) := []
  names : List (String × Nat) := []
  /-- Inside of what is behind: the first group that cannot be referred to. -/
  ownGroups : Option Nat := none
  /-- The numbers of the groups on which a choice depends. -/
  choices : List Nat := []
  /-- The letters of the modes for the whole pattern. -/
  letters : List Char := []
  hasRepetition : Bool := false
  /-- Whether all that is behind has one width. -/
  evenBehind : Bool := true

/-- What a repetition has to know of the piece before it. -/
inductive PieceKind where
  | plain
  | place
  | repetition
deriving DecidableEq

structure Piece where
  pattern : Pattern
  kind : PieceKind := .plain

/-- Pieces in a row, the last one first. -/
def joined (pieces : List Piece) : Pattern :=
  pieces.foldl (fun p piece => .seq piece.pattern p) .empty

/-- The outcome of reading. -/
abbrev Read (α : Type) := Except PatternError α

def required {α : Type} : Option α → Read α
  | some a => .ok a
  | none => .error .malformed

/-! ## Numbers and names -/

def octalDigit? (c : Char) : Option Nat :=
  (Text.asciiDigit? c).bind fun d => if d < 8 then some d else none

def hexDigit? (c : Char) : Option Nat :=
  let n := c.toNat
  if 48 ≤ n ∧ n ≤ 57 then some (n - 48)
  else if 65 ≤ n ∧ n ≤ 70 then some (n - 55)
  else if 97 ≤ n ∧ n ≤ 102 then some (n - 87)
  else none

/-- Up to `n` digits at the head of a text. -/
def takeDigits (value? : Char → Option Nat) : Nat → List Char → List Nat × List Char
  | 0, cs => ([], cs)
  | _, [] => ([], [])
  | n + 1, c :: cs =>
    match value? c with
    | some d => let (ds, rest) := takeDigits value? n cs; (d :: ds, rest)
    | none => ([], c :: cs)

def valueIn (base : Nat) (ds : List Nat) : Nat := ds.foldl (fun n d => n * base + d) 0

/-- A code point of exactly `n` hexadecimal digits. -/
def takeHex (n : Nat) (cs : List Char) : Read (Nat × List Char) :=
  let (ds, rest) := takeDigits hexDigit? n cs
  let code := valueIn 16 ds
  if ds.length ≠ n then .error .malformed
  else if 0x80000000 ≤ code then .error .codeTooLarge
  else if 0x110000 ≤ code then .error .malformed
  else .ok (code, rest)

/-- A name in front of a mark. -/
def takeName (stop : Char) (cs : List Char) : Option (List Char × List Char) :=
  match cs.dropWhile (· != stop) with
  | _ :: rest => some (cs.takeWhile (· != stop), rest)
  | [] => none

def isName : List Char → Bool
  | [] => false
  | c :: cs => Text.isWordCharacter c && (Text.digitValue? c).isNone && cs.all Text.isWordCharacter

/-! ## Characters by name and number -/

/-- Characters that have a letter after `\`. -/
def namedCode? : Char → Option Nat
  | 'a' => some 7
  | 'f' => some 12
  | 'n' => some 10
  | 'r' => some 13
  | 't' => some 9
  | 'v' => some 11
  | _ => none

def namedClass? (asciiOnly : Bool) : Char → Option SetItem
  | 'd' => some (.ofClass .digit asciiOnly false)
  | 'D' => some (.ofClass .digit asciiOnly true)
  | 'w' => some (.ofClass .word asciiOnly false)
  | 'W' => some (.ofClass .word asciiOnly true)
  | 's' => some (.ofClass .blank asciiOnly false)
  | 'S' => some (.ofClass .blank asciiOnly true)
  | _ => none

/-- A character after `\`, by itself, by name or by its number in hexadecimal. -/
def takeCode (c : Char) (rest : List Char) : Read (Nat × List Char) :=
  match c with
  | 'x' => takeHex 2 rest
  | 'u' => takeHex 4 rest
  | 'U' => takeHex 8 rest
  | 'N' => match rest with
    | '\x7b' :: more => do
      let (name, more) ← required (takeName '\x7d' more)
      let code ← required (Text.codeOfName? (String.ofList name))
      .ok (code, more)
    | _ => .error .malformed
  | _ => match namedCode? c with
    | some code => .ok (code, rest)
    | none => if c.isAlphanum then .error .malformed else .ok (c.toNat, rest)

/-- The greatest character that an octal number can stand for. -/
def octalEnd : Nat := 255

/-! ## Sets -/

/-- A member of a set and the rest. -/
def takeSetItem (asciiOnly : Bool) : List Char → Read (SetItem × List Char)
  | '\\' :: 'b' :: rest => .ok (.char 8, rest)
  | '\\' :: c :: rest =>
    match namedClass? asciiOnly c with
    | some item => .ok (item, rest)
    | none =>
      match octalDigit? c with
      | some _ =>
        let (ds, more) := takeDigits octalDigit? 3 (c :: rest)
        if valueIn 8 ds ≤ octalEnd then .ok (.char (valueIn 8 ds), more) else .error .malformed
      | none => (takeCode c rest).map fun (code, more) => (.char code, more)
  | ['\\'] => .error .malformed
  | c :: rest => .ok (.char c.toNat, rest)
  | [] => .error .malformed

/-- The members of a set up to its bracket; `first` while none has been read, when
a bracket stands for itself. -/
def takeSetItems (asciiOnly : Bool) : Nat → Bool → List Char → Read (List SetItem × List Char)
  | 0, _, _ => .error .malformed
  | fuel + 1, first, cs =>
    match first, cs with
    | false, ']' :: rest => .ok ([], rest)
    | _, _ => do
      match ← takeSetItem asciiOnly cs with
      | (item, '-' :: ']' :: rest) => .ok ([item, .char '-'.toNat], rest)
      | (item, '-' :: more) =>
        match item, ← takeSetItem asciiOnly more with
        | .char a, (.char b, rest) =>
          if b < a then .error .malformed
          else (takeSetItems asciiOnly fuel false rest).map fun (items, r) => (.range a b :: items, r)
        | _, _ => .error .malformed
      | (item, rest) =>
        (takeSetItems asciiOnly fuel false rest).map fun (items, r) => (item :: items, r)

/-- The test for a set; that of a single character is that character. -/
def testOf (rule : CaseRule) (negated : Bool) (items : List SetItem) : CharTest :=
  match items.eraseDups with
  | [.char code] => .char rule negated code
  | items => .set rule negated items

/-- A set after its opening bracket. -/
def takeSet (modes : Modes) (cs : List Char) : Read (CharTest × List Char) :=
  let (negated, inner) := match cs with
    | '^' :: rest => (true, rest)
    | _ => (false, cs)
  (takeSetItems modes.asciiOnly (inner.length + 1) true inner).map fun (items, rest) =>
    (testOf modes.rule negated items, rest)

/-! ## Repetitions -/

/-- The bound of a number of rounds. -/
def roundsEnd : Nat := 4294967295

/-- A number of rounds, or nothing if there are no digits. -/
def roundsOf (ds : List Nat) : Read (Option Nat) :=
  if ds.isEmpty then .ok none
  else if maxIntegerDigits < ds.length then .error (.tooManyDigits ds.length)
  else if roundsEnd ≤ Text.ofDigits ds then .error .tooManyRounds
  else .ok (some (Text.ofDigits ds))

/-- The numbers of rounds `n}`, `n,}`, `,m}` or `n,m}` after a brace; nothing if the
brace stands for itself. -/
def takeRounds (cs : List Char) : Read (Option ((Nat × Option Nat) × List Char)) :=
  let (ds, r1) := takeDigits Text.asciiDigit? cs.length cs
  match r1 with
  | '}' :: rest => do
    match ← roundsOf ds with
    | some n => .ok (some ((n, some n), rest))
    | none => .ok none
  | ',' :: more =>
    let (es, r2) := takeDigits Text.asciiDigit? more.length more
    match r2 with
    | '}' :: rest => do
      let least := (← roundsOf ds).getD 0
      let most ← roundsOf es
      if most.any (· < least) then .error .malformed else .ok (some ((least, most), rest))
    | _ => .ok none
  | _ => .ok none

/-- The numbers of rounds of a repetition at the head of a text, if there is one. -/
def takeRepetition (cs : List Char) : Read (Option ((Nat × Option Nat) × List Char)) :=
  match cs with
  | '*' :: rest => .ok (some ((0, none), rest))
  | '+' :: rest => .ok (some ((1, none), rest))
  | '?' :: rest => .ok (some ((0, some 1), rest))
  | '{' :: rest => takeRounds rest
  | _ => .ok none

/-- How a repetition goes about it. -/
def takeGreed : List Char → Greed × List Char
  | '?' :: rest => (.fewest, rest)
  | '+' :: rest => (.mostOnly, rest)
  | rest => (.most, rest)

/-- The pieces after a repetition of the last one. -/
def repeatLast (greed : Greed) (least : Nat) (most : Option Nat) : List Piece → Read (List Piece)
  | ⟨p, .plain⟩ :: before => .ok (⟨.rep greed least most p, .repetition⟩ :: before)
  | _ => .error .malformed

/-! ## References -/

/-- Whether a group can be referred to: it has ended, and before what is behind began. -/
def Reading.canRefer (r : Reading) (number : Nat) : Bool :=
  (r.closed.lookup number).isSome && r.ownGroups.all (number < ·)

def reference (r : Reading) (number : Nat) (rest : List Char) : Read (Option Piece × Reading) :=
  if r.canRefer number then
    .ok (some ⟨.again r.modes.rule number, .plain⟩, { r with rest := rest })
  else .error .malformed

/-- A character by an octal number of three digits, or a reference to a group, after
`\` and the first digit. -/
def takeNumbered (r : Reading) (d : Nat) (cs : List Char) : Read (Option Piece × Reading) :=
  match takeDigits Text.asciiDigit? 2 cs with
  | ([], _) => reference r d cs
  | ([e], rest) => reference r (10 * d + e) rest
  | (e :: f :: _, rest) =>
    if d < 8 ∧ e < 8 ∧ f < 8 then
      let code := valueIn 8 [d, e, f]
      if code ≤ octalEnd then
        .ok (some ⟨.one (.char r.modes.rule false code), .plain⟩, { r with rest := rest })
      else .error .malformed
    else reference r (10 * d + e) (cs.drop 1)

/-- A piece that starts with `\`. -/
def takeEscape (r : Reading) (c : Char) (rest : List Char) : Read (Option Piece × Reading) :=
  let m := r.modes
  let place (p : Place) : Read (Option Piece × Reading) :=
    .ok (some ⟨.place p, .place⟩, { r with rest := rest })
  let code (n : Nat) (more : List Char) : Read (Option Piece × Reading) :=
    .ok (some ⟨.one (.char m.rule false n), .plain⟩, { r with rest := more })
  match c with
  | 'A' => place .textStart
  | 'Z' => place .textEnd
  | 'b' => place (.edge m.asciiOnly)
  | 'B' => place (.inside m.asciiOnly)
  | '0' =>
    let (ds, more) := takeDigits octalDigit? 2 rest
    code (valueIn 8 ds) more
  | _ =>
    match namedClass? m.asciiOnly c, Text.asciiDigit? c with
    | some item, _ => .ok (some ⟨.one (.set m.rule false [item]), .plain⟩, { r with rest := rest })
    | none, some d => takeNumbered r d rest
    | none, none => do
      let (n, more) ← takeCode c rest
      code n more

/-! ## Modes and comments -/

/-- What follows a comment; a parenthesis after `\` does not end it. -/
def dropComment : List Char → Option (List Char)
  | '\\' :: _ :: cs => dropComment cs
  | ')' :: cs => some cs
  | _ :: cs => dropComment cs
  | [] => none

def isModeLetter (c : Char) : Bool := Modes.letters.contains c

/-- The letters of modes to switch on, those to switch off, and whether they are for
all that follows; nothing where that makes no sense. -/
def takeModes (cs : List Char) : Option (List Char × List Char × Bool × List Char) :=
  let on := cs.takeWhile isModeLetter
  let kinds (ls : List Char) : Bool := ls.contains 'a' || ls.contains 'u'
  if on.contains 'L' || (on.contains 'a' && on.contains 'u') then none
  else match cs.dropWhile isModeLetter with
    | ')' :: rest => if on.isEmpty then none else some (on, [], true, rest)
    | ':' :: rest => if on.isEmpty || on.contains 't' then none else some (on, [], false, rest)
    | '-' :: more =>
      let off := more.takeWhile isModeLetter
      match more.dropWhile isModeLetter with
      | ':' :: rest =>
        if off.isEmpty || kinds off || off.contains 'L' || off.contains 't' || on.contains 't' ||
            on.any off.contains then none
        else some (on, off, false, rest)
      | _ => none
    | _ => none

/-- Blanks that count for nothing in a spaced pattern. -/
def isFiller (c : Char) : Bool := " \t\n\r\x0b\x0c".toList.contains c

/-! ## Alternatives -/

/-- The members of the set that a single character or set stands for. -/
def setOf? : Pattern → Option (CaseRule × List SetItem)
  | .seq (.one (.char rule false code)) .empty => some (rule, [.char code])
  | .seq (.one (.set rule false items)) .empty => some (rule, items)
  | _ => none

/-- One pattern or another. -/
def eitherOf : List Pattern → Pattern
  | [] => .empty
  | [p] => p
  | p :: ps => .alt p (eitherOf ps)

/-- One of several alternatives. -/
def anyOf (ps : List Pattern) : Pattern :=
  match ps.mapM setOf? with
  | some ((rule, items) :: set :: sets) =>
    .one (testOf rule false (items ++ (set :: sets).flatMap Prod.snd))
  | _ => eitherOf ps

/-- The greatest number of parentheses inside one another. -/
def maxNesting : Nat := 488

/-! ## Pieces -/

mutual

/-- Alternatives, up to a closing parenthesis or the end; `top` at the very start of
a pattern. -/
def takeAlternatives : Nat → Bool → Reading → Read (List Pattern × Reading)
  | 0, _, _ => .error .malformed
  | fuel + 1, top, r => do
    let (p, r) ← takeSequence fuel top [] r
    match r.rest with
    | '|' :: rest =>
      let (ps, r) ← takeAlternatives fuel false { r with rest := rest }
      .ok (p :: ps, r)
    | _ => .ok ([p], r)

/-- Pieces in a row, up to a bar, a closing parenthesis or the end. -/
def takeSequence : Nat → Bool → List Piece → Reading → Read (Pattern × Reading)
  | 0, _, _, _ => .error .malformed
  | fuel + 1, top, done, r =>
    match r.rest with
    | [] => .ok (joined done, r)
    | c :: rest =>
      if c = '|' ∨ c = ')' then .ok (joined done, r)
      else if r.modes.spaced && isFiller c then takeSequence fuel top done { r with rest := rest }
      else if r.modes.spaced && c == '#' then
        takeSequence fuel top done { r with rest := (rest.dropWhile (· != '\n')).drop 1 }
      else do
        match ← takeRepetition r.rest with
        | some ((least, most), more) =>
          let (greed, more) := takeGreed more
          let done ← repeatLast greed least most done
          takeSequence fuel top done { r with rest := more, hasRepetition := true }
        | none =>
          let (piece, r) ← takePiece fuel (top && done.isEmpty) r
          takeSequence fuel top (piece.toList ++ done) r

/-- One piece: a character, a set, a place or what stands in parentheses.  A comment
or a change of modes, which only comes at the very start, is none. -/
def takePiece : Nat → Bool → Reading → Read (Option Piece × Reading)
  | 0, _, _ => .error .malformed
  | fuel + 1, atStart, r =>
    let m := r.modes
    match r.rest with
    | [] => .error .malformed
    | '.' :: rest => .ok (some ⟨.one (.any m.lineFeedToo), .plain⟩, { r with rest := rest })
    | '^' :: rest =>
      .ok (some ⟨.place (if m.manyLines then .lineStart else .textStart), .place⟩,
        { r with rest := rest })
    | '$' :: rest =>
      .ok (some ⟨.place (if m.manyLines then .lineEnd else .lastLineEnd), .place⟩,
        { r with rest := rest })
    | '[' :: rest => do
      let (test, more) ← takeSet m rest
      .ok (some ⟨.one test, .plain⟩, { r with rest := more })
    | ['\\'] => .error .malformed
    | '\\' :: c :: rest => takeEscape r c rest
    | '(' :: '?' :: rest => takeSpecial fuel atStart { r with rest := rest }
    | '(' :: rest => takeGroup fuel none { r with rest := rest }
    | c :: rest =>
      .ok (some ⟨.one (.char m.rule false c.toNat), .plain⟩, { r with rest := rest })

/-- What stands up to a closing parenthesis, read under some modes. -/
def takeInner : Nat → Modes → Reading → Read (Pattern × Reading)
  | 0, _, _ => .error .malformed
  | fuel + 1, modes, r => do
    if maxNesting ≤ r.depth then throw .tooDeep
    let (ps, r') ← takeAlternatives fuel false { r with modes := modes, depth := r.depth + 1 }
    match r'.rest with
    | ')' :: rest => .ok (anyOf ps, { r' with rest := rest, modes := r.modes, depth := r.depth })
    | _ => .error .malformed

/-- A group after its parenthesis, and its name if it has one. -/
def takeGroup : Nat → Option String → Reading → Read (Option Piece × Reading)
  | 0, _, _ => .error .malformed
  | fuel + 1, name, r => do
    let number := r.opened + 1
    if name.any fun n => (r.names.lookup n).isSome then throw .malformed
    let names := (name.map (·, number)).toList ++ r.names
    let (p, r) ← takeInner fuel r.modes { r with opened := number, names := names }
    .ok (some ⟨.group number p, .plain⟩,
      { r with closed := (number, p.width r.closed) :: r.closed })

/-- What follows `(?`. -/
def takeSpecial : Nat → Bool → Reading → Read (Option Piece × Reading)
  | 0, _, _ => .error .malformed
  | fuel + 1, atStart, r =>
    let plain (p : Pattern) (r : Reading) : Read (Option Piece × Reading) :=
      .ok (some ⟨p, .plain⟩, r)
    match r.rest with
    | ':' :: rest => do
      let (p, r) ← takeInner fuel r.modes { r with rest := rest }
      plain p r
    | '>' :: rest => do
      let (p, r) ← takeInner fuel r.modes { r with rest := rest }
      plain (.atomic p) r
    | '#' :: rest => do
      let more ← required (dropComment rest)
      .ok (none, { r with rest := more })
    | '=' :: rest => do
      let (p, r) ← takeInner fuel r.modes { r with rest := rest }
      plain (.ahead false p) r
    | '!' :: rest => do
      let (p, r) ← takeInner fuel r.modes { r with rest := rest }
      plain (.ahead true p) r
    | '<' :: '=' :: rest => do
      let (p, width, r) ← takeBehind fuel { r with rest := rest }
      plain (.behind false width p) r
    | '<' :: '!' :: rest => do
      let (p, width, r) ← takeBehind fuel { r with rest := rest }
      plain (.behind true width p) r
    | 'P' :: '<' :: rest => do
      let (name, more) ← required (takeName '>' rest)
      if isName name then takeGroup fuel (some (String.ofList name)) { r with rest := more }
      else .error .malformed
    | 'P' :: '=' :: rest => do
      let (name, more) ← required (takeName ')' rest)
      let number ← required (r.names.lookup (String.ofList name))
      reference r number more
    | '(' :: rest => do
      let (name, more) ← required (takeName ')' rest)
      let text := String.ofList name
      let number ← if isName name then required (r.names.lookup text)
        else match Text.readInteger text with
          | .ok n => if 0 < n then .ok n.toNat else .error .malformed
          | .error _ => .error .malformed
      if r.ownGroups.isSome && !r.canRefer number then throw .malformed
      takeChoice fuel number { r with rest := more, choices := number :: r.choices }
    | _ => do
      let (on, off, whole, rest) ← required (takeModes r.rest)
      let changed := off.foldl (·.switch false ·) (on.foldl (·.switch true ·) r.modes)
      if whole then
        if atStart then
          let r := { r with rest := rest, letters := on ++ r.letters, modes := changed }
          .ok (none, r)
        else .error .malformed
      else do
        let (p, r) ← takeInner fuel changed { r with rest := rest }
        plain p r

/-- What is behind, with its width. -/
def takeBehind : Nat → Reading → Read (Pattern × Nat × Reading)
  | 0, _ => .error .malformed
  | fuel + 1, r => do
    let own := r.ownGroups.getD (r.opened + 1)
    let (p, r') ← takeInner fuel r.modes { r with ownGroups := some own }
    let (lo, hi) := p.width r'.closed
    let even := hi == some lo && lo ≤ roundsEnd
    .ok (p, lo, { r' with ownGroups := r.ownGroups, evenBehind := r'.evenBehind && even })

/-- The one or two pieces of a choice, after its condition. -/
def takeChoice : Nat → Nat → Reading → Read (Option Piece × Reading)
  | 0, _, _ => .error .malformed
  | fuel + 1, number, r => do
    let (p, r) ← takeSequence fuel false [] r
    match r.rest with
    | ')' :: rest => .ok (some ⟨.given number p .empty, .plain⟩, { r with rest := rest })
    | '|' :: rest =>
      let (q, r) ← takeSequence fuel false [] { r with rest := rest }
      match r.rest with
      | ')' :: rest => .ok (some ⟨.given number p q, .plain⟩, { r with rest := rest })
      | _ => .error .malformed
    | _ => .error .malformed

end

/-- **Reading a pattern.** -/
def read (s : String) : Read Pattern := do
  let (ps, r) ← takeAlternatives (6 * s.length + 6) true { rest := s.toList }
  let p := anyOf ps
  if r.letters.contains 'a' && r.letters.contains 'u' then .error .contraryModes
  else if !r.rest.isEmpty || r.choices.any (r.opened < ·) || !r.evenBehind ||
      (r.letters.contains 't' && r.hasRepetition) then .error .malformed
  else .ok (p.keeping p.asked)

end Pattern
end Recorder
