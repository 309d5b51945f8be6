import UtilityLayout.Text.Hex
import UtilityLayout.Yaml.Cursor
import UtilityLayout.Yaml.Fault
/-! The text of a scalar, in its five forms: plain, in single or double quotes, literal or folded block. Line
breaks inside are folded to a space, and n empty lines to n breaks; a literal block keeps them. -/
namespace UtilityLayout.Yaml

def folded (first : Char) (more : List Char) : List Char :=
  if first != '\n' then first :: more
  else if more.isEmpty then [' '] else more

namespace Plain

def isEnd (inFlow : Bool) (c : Char) (next? : Option Char) : Bool :=
  isGap c || isBreak c ||
    (c == ':' && (endsToken next? || (inFlow && next?.any fun d =>
      d == ',' || d == '[' || d == ']' || d == '\x7b' || d == '\x7d'))) ||
    (inFlow && (c == ',' || c == '?' || c == '[' || c == ']' || c == '\x7b' || c == '\x7d'))

def word (inFlow : Bool) : List Char → List Char
  | [] => []
  | c :: rest => if isEnd inFlow c rest.head? then [] else c :: word inFlow rest

def moreBreaks : Nat → Cursor → List Char × Bool × Cursor
  | 0, c => ([], false, c)
  | fuel + 1, c =>
    if c.sees (· == ' ') then moreBreaks fuel c.advance
    else match c.lineBreak? with
      | none => ([], false, c)
      | some (b, c) =>
        if c.atSeparator then ([], true, c)
        else
          let (breaks, separated, c) := moreBreaks fuel c
          (b :: breaks, separated, c)

/- What stands between two words: the folded text, whether a line ended, and the place after it. No
text means that the scalar ends. -/
def gap (c : Cursor) : List Char × Bool × Cursor :=
  let (spaces, c) := c.span (· == ' ')
  match c.lineBreak? with
  | none => (spaces, false, c)
  | some (b, c) =>
    if c.atSeparator then ([], true, c)
    else
      let (breaks, separated, c) := moreBreaks c.fuel c
      (if separated then [] else folded b breaks, true, c)

def words (inFlow : Bool) (indent : Int) : Nat → List Char → Bool → Cursor → List Char × Bool × Cursor
  | 0, _, newLine, c => ([], newLine, c)
  | fuel + 1, before, newLine, c =>
    let run := word inFlow c.rest
    if c.sees (· == '#') || run.isEmpty then ([], newLine, c)
    else
      let (between, newLine, c) := gap (c.advanceBy run.length)
      if between.isEmpty || c.sees (· == '#') || (!inFlow && (c.column : Int) < indent) then
        (before ++ run, newLine, c)
      else
        let (others, newLine, c) := words inFlow indent fuel between newLine c
        (before ++ run ++ others, newLine, c)

def scan (inFlow : Bool) (indent : Int) (c : Cursor) : Text × Bool × Cursor :=
  let (characters, newLine, c) := words inFlow indent c.fuel [] false c
  (.ofChars characters, newLine, c)

end Plain

namespace Quote

def simpleEscape? : Char → Option Char
  | '0' => some '\x00'
  | 'a' => some '\x07'
  | 'b' => some '\x08'
  | 't' | '\t' => some '\t'
  | 'n' => some '\n'
  | 'v' => some '\x0b'
  | 'f' => some '\x0c'
  | 'r' => some '\r'
  | 'e' => some '\x1b'
  | ' ' => some ' '
  | '"' => some '"'
  | '\\' => some '\\'
  | '/' => some '/'
  | 'N' => some '\x85'
  | '_' => some '\xa0'
  | 'L' => some '\u2028'
  | 'P' => some '\u2029'
  | _ => none

def codeWidth? : Char → Option Nat
  | 'x' => some 2
  | 'u' => some 4
  | 'U' => some 8
  | _ => none

def hexCode? (digits : List Char) : Option Nat :=
  (digits.mapM Text.hexValue?).map (Numeral.ofDigitList 16)

def breaks : Nat → Cursor → Except Fault (List Char × Cursor)
  | 0, _ => .error .malformed
  | fuel + 1, c =>
    if c.atSeparator then .error .malformed
    else
      let c := c.skip isGap
      match c.lineBreak? with
      | none => .ok ([], c)
      | some (b, c) => do
        let (more, c) ← breaks fuel c
        .ok (b :: more, c)

def escape (c : Cursor) : Except Fault (Text × Cursor) :=
  match c.peek? with
  | none => .error .malformed
  | some letter =>
    match simpleEscape? letter, codeWidth? letter with
    | some character, _ => .ok (.ofChars [character], c.advance)
    | none, some width =>
      let digits := c.advance.rest.take width
      match hexCode? digits with
      | some code =>
        if digits.length < width then .error .malformed
        else if 0x110000 ≤ code then .error (.noCharacter code)
        else .ok (⟨[.ofNat code]⟩, c.advance.advanceBy width)
      | none => .error .malformed
    | none, none =>
      match c.lineBreak? with
      | some (_, c) => do
        let (more, c) ← breaks c.fuel c
        .ok (.ofChars more, c)
      | none => .error .malformed

def blanks (c : Cursor) : Except Fault (List Char × Cursor) :=
  let (spaces, c) := c.span isGap
  match c.lineBreak? with
  | some (b, c) => do
    let (more, c) ← breaks c.fuel c
    .ok (folded b more, c)
  | none => .ok (spaces, c)

def content (double : Bool) : Nat → Cursor → Except Fault (Text × Cursor)
  | 0, _ => .error .malformed
  | fuel + 1, c =>
    match c.rest with
    | [] => .error .malformed
    | ch :: rest =>
      if ch == (if double then '"' else '\'') && (double || rest.head? != some '\'') then
        .ok (⟨[]⟩, c.advance)
      else do
        let (first, c) ←
          if !double && ch == '\'' then pure (Text.ofChars ['\''], c.advanceBy 2)
          else if double && ch == '\\' then escape c.advance
          else if isGap ch || isBreak ch then do
            let (spaces, c) ← blanks c
            pure (Text.ofChars spaces, c)
          else pure (Text.ofChars [ch], c.advance)
        let (others, c) ← content double fuel c
        .ok (first ++ others, c)

def scan (double : Bool) (c : Cursor) : Except Fault (Text × Cursor) :=
  content double c.fuel c.advance

end Quote

namespace Block

inductive Chomping where
  | strip
  | clip
  | keep
  deriving DecidableEq, Repr

def chomping? : Option Char → Option Chomping
  | some '+' => some .keep
  | some '-' => some .strip
  | _ => none

def increment? : Option Char → Except Fault (Option Nat)
  | some c =>
    if c == '0' then .error .malformed
    else if Text.isAsciiDigit c then .ok (some (c.toNat - '0'.toNat))
    else .ok none
  | none => .ok none

def indicators (c : Cursor) : Except Fault (Chomping × Option Nat × Cursor) := do
  let (chomping, width, c) ← match chomping? c.peek? with
    | some chomping =>
      let c := c.advance
      match ← increment? c.peek? with
      | some width => pure (chomping, some width, c.advance)
      | none => pure (chomping, none, c)
    | none =>
      match ← increment? c.peek? with
      | some width =>
        let c := c.advance
        match chomping? c.peek? with
        | some chomping => pure (chomping, some width, c.advance)
        | none => pure (.clip, some width, c)
      | none => pure (.clip, none, c)
  if endsWord c.peek? then .ok (chomping, width, c) else .error .malformed

def endOfLine (c : Cursor) : Except Fault Cursor :=
  let c := c.skip (· == ' ')
  let c := if c.sees (· == '#') then c.skipLine else c
  if endsLine c.peek? then .ok ((c.lineBreak?.map Prod.snd).getD c) else .error .malformed

def leading : Nat → Nat → Cursor → List Char × Nat × Cursor
  | 0, widest, c => ([], widest, c)
  | fuel + 1, widest, c =>
    if c.sees (· == ' ') then
      let c := c.advance
      leading fuel (max widest c.column) c
    else match c.lineBreak? with
      | some (b, c) =>
        let (breaks, widest, c) := leading fuel widest c
        (b :: breaks, widest, c)
      | none => ([], widest, c)

def indentation (indent : Nat) : Nat → Cursor → Cursor
  | 0, c => c
  | fuel + 1, c =>
    if c.column < indent && c.sees (· == ' ') then indentation indent fuel c.advance else c

def emptyLines (indent : Nat) : Nat → Cursor → List Char × Cursor
  | 0, c => ([], c)
  | fuel + 1, c =>
    let c := indentation indent c.fuel c
    match c.lineBreak? with
    | some (b, c) =>
      let (breaks, c) := emptyLines indent fuel c
      (b :: breaks, c)
    | none => ([], c)

def lines (fold : Bool) (indent : Nat) : Nat → Cursor → List Char × List Char × List Char × Cursor
  | 0, c => ([], [], [], c)
  | fuel + 1, c =>
    let startsWithText := !c.sees isGap
    let (line, c) := c.span fun ch => !isBreak ch
    let (lineBreak, c) := match c.lineBreak? with
      | some (b, c) => ([b], c)
      | none => ([], c)
    let (breaks, c) := emptyLines indent c.fuel c
    if c.column == indent && c.peek?.isSome then
      let between :=
        if fold && lineBreak == ['\n'] && startsWithText && !c.sees isGap then
          if breaks.isEmpty then [' '] else []
        else lineBreak
      let (others, lastBreak, trailing, c) := lines fold indent fuel c
      (line ++ between ++ breaks ++ others, lastBreak, trailing, c)
    else (line, lineBreak, breaks, c)

def scan (fold : Bool) (parent : Int) (c : Cursor) : Except Fault (Text × Cursor) := do
  let (chomping, width?, c) ← indicators c.advance
  let c ← endOfLine c
  let least := max (parent + 1) 1 |>.toNat
  let (breaks, indent, c) := match width? with
    | none =>
      let (breaks, widest, c) := leading c.fuel 0 c
      (breaks, max least widest, c)
    | some width =>
      let indent := least + width - 1
      let (breaks, c) := emptyLines indent c.fuel c
      (breaks, indent, c)
  let (body, lastBreak, trailing, c) :=
    if c.column == indent && c.peek?.isSome then
      let (body, lastBreak, trailing, c) := lines fold indent c.fuel c
      (breaks ++ body, lastBreak, trailing, c)
    else ([], [], breaks, c)
  let ending := match chomping with
    | .strip => []
    | .clip => lastBreak
    | .keep => lastBreak ++ trailing
  .ok (.ofChars (body ++ ending), c)

end Block
end UtilityLayout.Yaml
