/-
# Environment files

`SPEC_FULL.md` §9, the file `.env` that `RecorderConfig.from_env` loads first.

An environment file sets one variable a line.

| line | meaning |
| --- | --- |
| `KEY=value`, `export KEY=value` | a value, up to ` #` and without blanks at its ends |
| `KEY='value'`, `KEY="value"` | a quoted value, which may span lines and has escapes; a mark after a backslash does not end it |
| `KEY` | a variable without a value |
| `# …` or blank | nothing |

A line that is none of these is skipped.  `${NAME}` and `${NAME:-default}` in a
value stand for the value of another variable.  Later lines win.
-/

import Recorder.Entries
import Recorder.Text.Blank
import Recorder.Text.LetterCase

namespace Recorder
namespace EnvironmentFile

/-- A text in which every line ends with a line feed alone. -/
def joinLineEnds : List Char → List Char
  | '\r' :: '\n' :: cs => '\n' :: joinLineEnds cs
  | '\r' :: cs => '\n' :: joinLineEnds cs
  | c :: cs => c :: joinLineEnds cs
  | [] => []

def isLineEnd (c : Char) : Bool := c == '\n'

/-- A blank that does not end a line. -/
def isInnerBlank (c : Char) : Bool := Text.isBlank c && !isLineEnd c

/-- The end of a line, taken off. -/
def dropLineEnd : List Char → List Char
  | '\n' :: cs => cs
  | cs => cs

/-- A quoted text after its opening mark, and what follows; nothing if it does not
end.  A backslash goes with the character after it, which is on the same line. -/
def takeQuoted (mark : Char) : List Char → Option (List Char × List Char)
  | [] => none
  | '\\' :: c :: cs =>
    if isLineEnd c then none
    else (takeQuoted mark cs).map fun (q, r) => ('\\' :: c :: q, r)
  | c :: cs =>
    if c = mark then some ([], cs)
    else if c = '\\' then none
    else (takeQuoted mark cs).map fun (q, r) => (c :: q, r)

/-- What an escaped character stands for inside a mark. -/
def unescape? (mark : Char) (c : Char) : Option Char :=
  if mark = '\'' then (if c = '\\' ∨ c = '\'' then some c else none)
  else match c with
    | '\\' => some '\\'
    | '\'' => some '\''
    | '"' => some '"'
    | 'a' => some '\x07'
    | 'b' => some '\x08'
    | 'f' => some '\x0c'
    | 'n' => some '\n'
    | 'r' => some '\r'
    | 't' => some '\t'
    | 'v' => some '\x0b'
    | _ => none

/-- Replaces the escapes of a quoted text. -/
def decode (mark : Char) : List Char → List Char
  | '\\' :: c :: cs =>
    match unescape? mark c with
    | some d => d :: decode mark cs
    | none => '\\' :: decode mark (c :: cs)
  | c :: cs => c :: decode mark cs
  | [] => []

/-- An unquoted value without a comment: what precedes the first blanks before a `#`. -/
def dropComment : List Char → List Char
  | [] => []
  | c :: cs =>
    if Text.isBlank c && (((c :: cs).dropWhile Text.isBlank).head? == some '#') then []
    else c :: dropComment cs

/-- A text without the blanks at its end. -/
def dropBlankEnd (cs : List Char) : List Char := (cs.reverse.dropWhile Text.isBlank).reverse

/-- A value and what follows it; nothing if a quote does not end.  After blanks, a
comment may stand in place of a value. -/
def takeValue (afterBlank : Bool) (cs : List Char) : Option (List Char × List Char) :=
  let unquoted (value : List Char) := some (value, cs.dropWhile (!isLineEnd ·))
  match cs with
  | '\'' :: rest => (takeQuoted '\'' rest).map fun (q, r) => (decode '\'' q, r)
  | '"' :: rest => (takeQuoted '"' rest).map fun (q, r) => (decode '"' q, r)
  | '#' :: _ =>
    unquoted (if afterBlank then [] else dropBlankEnd (dropComment (cs.takeWhile (!isLineEnd ·))))
  | _ => unquoted (dropBlankEnd (dropComment (cs.takeWhile (!isLineEnd ·))))

/-- The name of a variable and what follows it; an unquoted one has no blank, `=` or `#`. -/
def takeKey (cs : List Char) : Option (List Char × List Char) :=
  let plain (c : Char) : Bool := !(Text.isBlank c || c == '=' || c == '#')
  match cs with
  | '\'' :: rest =>
    match rest.takeWhile (· != '\''), rest.dropWhile (· != '\'') with
    | c :: key, '\'' :: r => some (c :: key, r)
    | _, _ => none
  | _ => match cs.takeWhile plain with
    | [] => none
    | key => some (key, cs.dropWhile plain)

/-- Takes off the word `export` and the blanks after it. -/
def dropExport (cs : List Char) : List Char :=
  match Text.dropLead? "export".toList cs with
  | some (c :: rest) => if isInnerBlank c then rest.dropWhile isInnerBlank else cs
  | _ => cs

/-- What follows the rest of a line. -/
def skipLine (cs : List Char) : List Char := dropLineEnd (cs.dropWhile (!isLineEnd ·))

/-- The rest of a line after a variable: blanks and maybe a comment.  Gives what
follows the line, or where there is anything else. -/
def finishLine (cs : List Char) : Except (List Char) (List Char) :=
  let afterComment := match cs.dropWhile isInnerBlank with
    | '#' :: rest => rest.dropWhile (!isLineEnd ·)
    | _ => cs
  match afterComment.dropWhile isInnerBlank with
  | [] => .ok []
  | c :: rest => if isLineEnd c then .ok (dropLineEnd (c :: rest)) else .error afterComment

/-- What was expected in a text, or where it is missing. -/
def expect {α : Type} (here : List Char) : Option α → Except (List Char) α
  | some a => .ok a
  | none => .error here

/-- A variable at the head of a text, with what follows its line; or how far the
text could be read. -/
def takeBinding (cs : List Char) :
    Except (List Char) ((String × Option String) × List Char) := do
  let start := dropExport cs
  let (key, r1) ← expect start (takeKey start)
  let name := String.ofList key
  match r1.dropWhile isInnerBlank with
  | '=' :: r2 =>
    let here := r2.dropWhile isInnerBlank
    let (value, r3) ← expect here (takeValue (r2 != here) here)
    let rest ← finishLine r3
    .ok ((name, some (String.ofList value)), rest)
  | r2 =>
    let rest ← finishLine r2
    .ok ((name, none), rest)

/-- The variables of a text, in order.  A line that is no variable is skipped from
where it could not be read any further. -/
def bindingsFrom : Nat → List Char → List (String × Option String)
  | 0, _ => []
  | fuel + 1, cs =>
    match cs.dropWhile Text.isBlank with
    | [] => []
    | '#' :: rest => bindingsFrom fuel (skipLine rest)
    | start =>
      match takeBinding start with
      | .ok (binding, rest) => binding :: bindingsFrom fuel rest
      | .error here => bindingsFrom fuel (skipLine here)

/-- The name and the default of a reference after its `${`, and what follows it. -/
def takeReference (cs : List Char) : Option ((List Char × Option (List Char)) × List Char) :=
  let stop (c : Char) : Bool := c == '}' || c == ':'
  let name := cs.takeWhile (!stop ·)
  match cs.dropWhile (!stop ·) with
  | '}' :: rest => some ((name, none), rest)
  | ':' :: '-' :: more =>
    match more.dropWhile (· != '}') with
    | '}' :: rest => some ((name, some (more.takeWhile (· != '}'))), rest)
    | _ => none
  | _ => none

/-- Replaces references by the values of variables. -/
def expand (value? : String → Option String) : Nat → List Char → List Char
  | 0, cs => cs
  | _, [] => []
  | fuel + 1, '$' :: '{' :: cs =>
    match takeReference cs with
    | some ((name, fallback), rest) =>
      ((value? (String.ofList name)).map String.toList).getD (fallback.getD []) ++
        expand value? fuel rest
    | none => '$' :: expand value? fuel ('{' :: cs)
  | fuel + 1, c :: cs => c :: expand value? fuel cs

/-- The variables with their references replaced: by what is set outside, or else by
earlier lines. -/
def resolve (environment : Entries String) (known : Entries (Option String)) :
    List (String × Option String) → Entries (Option String)
  | [] => known
  | (name, value) :: rest =>
    let value? (n : String) : Option String :=
      (environment.get? n).or ((known.get? n).map (·.getD ""))
    let resolved := value.map fun v =>
      String.ofList (expand value? (v.length + 1) v.toList)
    resolve environment (known.put name resolved) rest

/-- Why a variable cannot be set. -/
inductive VariableError where
  | nullCharacter
  | illegalName
deriving DecidableEq, Repr

def VariableError.message : VariableError → String
  | .nullCharacter => "embedded null byte"
  | .illegalName => "illegal environment variable name"

/-- What is wrong with a variable: neither its name nor its value has a null
character, and its name has no `=`. -/
def variableError? (name value : String) : Option VariableError :=
  if name.toList.contains '\x00' || value.toList.contains '\x00' then some .nullCharacter
  else if name.toList.contains '=' then some .illegalName
  else none

/-- Variables to be set besides those of the environment. -/
def added (environment : Entries String) :
    Entries (Option String) → Except VariableError (Entries String)
  | [] => .ok []
  | (name, value) :: rest =>
    match if environment.has name then none else value with
    | none => added environment rest
    | some v =>
      match variableError? name v with
      | some e => .error e
      | none => (added environment rest).map ((name, v) :: ·)

/-- A text without a byte order mark at its start. -/
def dropMark : List Char → List Char
  | '\ufeff' :: cs => cs
  | cs => cs

/-- **Loading a file:** its variables come after those of the environment, which win. -/
def load (environment : Entries String) (text : String) : Except VariableError (Entries String) :=
  let lines := joinLineEnds (dropMark text.toList)
  let found := resolve environment [] (bindingsFrom (text.length + 1) lines)
  (added environment found).map (environment ++ ·)

/-- Words by which a switch is on, in any case. -/
def switchWords : List String := ["1", "true", "t", "yes", "y"]

/-- Whether a switch that turns environment files off is on. -/
def isTurnedOff (switch : Option String) : Bool :=
  switch.any fun value => switchWords.any fun word => Text.agreesText word.toList value.toList

end EnvironmentFile
end Recorder
