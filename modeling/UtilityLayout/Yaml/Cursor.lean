/-! A place in the text of a document: what is left, and how far, on which line and in which column it
stands. A byte order mark takes no column. The length of the whole text bounds every loop. -/
namespace UtilityLayout.Yaml

def isBreak (c : Char) : Bool :=
  c == '\n' || c == '\r' || c == '\x85' || c == '\u2028' || c == '\u2029'

def isGap (c : Char) : Bool :=
  c == ' ' || c == '\t'

def isAllowed (c : Char) : Bool :=
  let n := c.toNat
  n == 0x09 || n == 0x0a || n == 0x0d || (0x20 ≤ n && n ≤ 0x7e) || n == 0x85 ||
    (0xa0 ≤ n && n ≤ 0xfffd) || 0x10000 ≤ n

def endsOr (p : Char → Bool) : Option Char → Bool
  | none => true
  | some c => p c

def endsLine : Option Char → Bool :=
  endsOr isBreak

def endsWord : Option Char → Bool :=
  endsOr fun c => c == ' ' || isBreak c

def endsToken : Option Char → Bool :=
  endsOr fun c => isGap c || isBreak c

structure Cursor where
  rest : List Char
  size : Nat
  index : Nat := 0
  line : Nat := 0
  column : Nat := 0
  deriving DecidableEq, Repr

namespace Cursor

def start (text : List Char) : Cursor :=
  { rest := text, size := text.length }

def peek? (c : Cursor) : Option Char :=
  c.rest.head?

def peekAt? (c : Cursor) (n : Nat) : Option Char :=
  c.rest[n]?

def sees (c : Cursor) (p : Char → Bool) : Bool :=
  c.peek?.any p

def advance (c : Cursor) : Cursor :=
  match c.rest with
  | [] => c
  | ch :: rest =>
    if isBreak ch && !(ch == '\r' && rest.head? == some '\n') then
      ⟨rest, c.size, c.index + 1, c.line + 1, 0⟩
    else ⟨rest, c.size, c.index + 1, c.line, if ch = '\ufeff' then c.column else c.column + 1⟩

def advanceBy : Nat → Cursor → Cursor
  | 0, c => c
  | n + 1, c => advanceBy n c.advance

def span (p : Char → Bool) (c : Cursor) : List Char × Cursor :=
  let run := c.rest.takeWhile p
  (run, c.advanceBy run.length)

def skip (p : Char → Bool) (c : Cursor) : Cursor :=
  (c.span p).2

/- A line break, if one is next. All but the two separators of paragraphs and lines count as a line
feed, and so does a carriage return with a line feed. -/
def lineBreak? (c : Cursor) : Option (Char × Cursor) :=
  match c.rest with
  | '\r' :: '\n' :: _ => some ('\n', c.advanceBy 2)
  | ch :: _ =>
    if ch == '\u2028' || ch == '\u2029' then some (ch, c.advance)
    else if isBreak ch then some ('\n', c.advance)
    else none
  | [] => none

def skipLine (c : Cursor) : Cursor :=
  c.skip fun ch => !isBreak ch

def atSeparator (c : Cursor) : Bool :=
  let marks := c.rest.take 3
  (marks == ['-', '-', '-'] || marks == ['.', '.', '.']) && endsToken (c.peekAt? 3)

def fuel (c : Cursor) : Nat :=
  c.size + 1

end Cursor
end UtilityLayout.Yaml
