import UtilityLayout.Yaml.Token
/-! The tokens of a text, found as they are asked for. Outside of flow collections the column of a first key
or entry opens a block, and a smaller column closes it. A key is known as such only at its colon, which has to
follow on the same line within 1024 characters; until then its place is kept as a candidate. A token is given
out once no candidate stands before it, so that a fault counts only if a reader gets as far as that. -/
namespace UtilityLayout.Yaml

/- A place where a key may have begun, with the number of its first token. A required one stands where the
block allows nothing but a key. -/
structure Candidate where
  level : Nat
  position : Nat
  required : Bool
  index : Nat
  line : Nat
  column : Nat
  deriving DecidableEq, Repr

structure Lexer where
  cursor : Cursor
  queue : List Token := []
  taken : Nat := 0
  finished : Bool := false
  level : Nat := 0
  indent : Int := -1
  outer : List Int := []
  keyAllowed : Bool := true
  candidates : List Candidate := []
  deriving Repr

namespace Lexer

abbrev Step := Except Fault Lexer

def inFlow (l : Lexer) : Bool :=
  l.level != 0

def position (l : Lexer) : Nat :=
  l.taken + l.queue.length

def emit (l : Lexer) (token : Token) : Lexer :=
  { l with queue := l.queue ++ [token] }

def emitAt (l : Lexer) (position : Nat) (token : Token) : Lexer :=
  let before := position - l.taken
  { l with queue := l.queue.take before ++ token :: l.queue.drop before }

def moveTo (l : Lexer) (cursor : Cursor) : Lexer :=
  { l with cursor }

def allowKey (l : Lexer) (allowed : Bool) : Lexer :=
  { l with keyAllowed := allowed }

def longestKey : Nat := 1024

def isStale (l : Lexer) (k : Candidate) : Bool :=
  k.line != l.cursor.line || longestKey < l.cursor.index - k.index

def dropStale (l : Lexer) : Step :=
  if l.candidates.any fun k => l.isStale k && k.required then .error .malformed
  else .ok { l with candidates := l.candidates.filter fun k => !l.isStale k }

def dropCandidate (l : Lexer) : Step :=
  if l.candidates.any fun k => k.level == l.level && k.required then .error .malformed
  else .ok { l with candidates := l.candidates.filter fun k => k.level != l.level }

def noteCandidate (l : Lexer) : Step :=
  if l.keyAllowed then do
    let required := !l.inFlow && l.indent == l.cursor.column
    let l ← l.dropCandidate
    let candidate : Candidate :=
      ⟨l.level, l.position, required, l.cursor.index, l.cursor.line, l.cursor.column⟩
    .ok { l with candidates := l.candidates ++ [candidate] }
  else .ok l

def closeBlocks (column : Int) (queue : List Token) (indent : Int) :
    List Int → List Token × Int × List Int
  | [] => (queue, indent, [])
  | next :: outer =>
    if column < indent then closeBlocks column (queue ++ [.blockEnd]) next outer
    else (queue, indent, next :: outer)

def unwind (l : Lexer) (column : Int) : Lexer :=
  if l.inFlow then l
  else
    let (queue, indent, outer) := closeBlocks column l.queue l.indent l.outer
    { l with queue, indent, outer }

def openBlock (l : Lexer) (column : Int) (position : Nat) (token : Token) : Lexer :=
  if l.indent < column then
    { (l.emitAt position token) with indent := column, outer := l.indent :: l.outer }
  else l

def skipToToken : Nat → Lexer → Lexer
  | 0, l => l
  | fuel + 1, l =>
    let c := l.cursor.skip (· == ' ')
    let c := if c.sees (· == '#') then c.skipLine else c
    match c.lineBreak? with
    | some (_, c) => skipToToken fuel { l with cursor := c, keyAllowed := l.keyAllowed || !l.inFlow }
    | none => l.moveTo c

def toplevel (l : Lexer) (token : Token) (cursor : Cursor) : Step := do
  let l ← (l.unwind (-1)).dropCandidate
  .ok (((l.allowKey false).emit token).moveTo cursor)

def flowStart (l : Lexer) (token : Token) : Step := do
  let l ← l.noteCandidate
  .ok ({ l with level := l.level + 1, keyAllowed := true, cursor := l.cursor.advance }.emit token)

def flowEnd (l : Lexer) (token : Token) : Step := do
  let l ← l.dropCandidate
  .ok ({ l with level := l.level - 1, keyAllowed := false, cursor := l.cursor.advance }.emit token)

def comma (l : Lexer) : Step := do
  let l ← (l.allowKey true).dropCandidate
  .ok ((l.emit .comma).moveTo l.cursor.advance)

def blockMark (l : Lexer) (block mark : Token) (keyAfter : Bool) : Step := do
  if !l.inFlow && !l.keyAllowed then throw .malformed
  let l := if l.inFlow then l else l.openBlock l.cursor.column l.position block
  let l ← (l.allowKey keyAfter).dropCandidate
  .ok ((l.emit mark).moveTo l.cursor.advance)

def value (l : Lexer) : Step :=
  match l.candidates.find? (·.level == l.level) with
  | some k =>
    let l := { l with candidates := l.candidates.filter fun k => k.level != l.level }
    let l := l.emitAt k.position .key
    let l := if l.inFlow then l else l.openBlock k.column k.position .mappingStart
    .ok (((l.allowKey false).emit .value).moveTo l.cursor.advance)
  | none => l.blockMark .mappingStart .value (!l.inFlow)

def content (l : Lexer) (scan : Cursor → Except Fault (Token × Cursor)) : Step := do
  let l ← l.noteCandidate
  let (token, c) ← scan l.cursor
  .ok (((l.allowKey false).emit token).moveTo c)

def plain (l : Lexer) : Step := do
  let l ← l.noteCandidate
  let (text, newLine, c) := Plain.scan l.inFlow (l.indent + 1) l.cursor
  .ok (((l.allowKey newLine).emit (.scalar text true)).moveTo c)

def block (l : Lexer) (fold : Bool) : Step := do
  let l ← (l.allowKey true).dropCandidate
  let (text, c) ← Block.scan fold l.indent l.cursor
  .ok ((l.emit (.scalar text false)).moveTo c)

def isIndicator (c : Char) : Bool :=
  "-?:,[]#&*!|>'\"%@".toList.contains c || c == '\x60' || c == '\x7b' || c == '\x7d'

def startsPlain (l : Lexer) (ch : Char) : Bool :=
  !(isGap ch || isBreak ch || isIndicator ch) ||
    (!endsToken (l.cursor.peekAt? 1) && (ch == '-' || (!l.inFlow && (ch == '?' || ch == ':'))))

def next (l : Lexer) : Step := do
  let l ← (skipToToken l.cursor.fuel l).dropStale
  let l := l.unwind l.cursor.column
  let c := l.cursor
  let alone := endsToken (c.peekAt? 1)
  match c.peek? with
  | none => do
    let l ← (l.unwind (-1)).dropCandidate
    .ok { (l.emit .streamEnd) with candidates := [], keyAllowed := false, finished := true }
  | some ch =>
    if ch == '%' && c.column == 0 then do
      let (directive, after) ← Mark.directive c
      l.toplevel (.directive directive) after
    else if c.column == 0 && c.atSeparator then
      l.toplevel (if ch == '-' then .documentStart else .documentEnd) (c.advanceBy 3)
    else if ch == '[' then l.flowStart .openBracket
    else if ch == '\x7b' then l.flowStart .openBrace
    else if ch == ']' then l.flowEnd .closeBracket
    else if ch == '\x7d' then l.flowEnd .closeBrace
    else if ch == ',' then l.comma
    else if ch == '-' && alone then l.blockMark .sequenceStart .entry true
    else if ch == '?' && (l.inFlow || alone) then l.blockMark .mappingStart .key (!l.inFlow)
    else if ch == ':' && (l.inFlow || alone) then l.value
    else if ch == '*' then l.content fun c => (Mark.anchor c).map fun (name, c) => (.alias name, c)
    else if ch == '&' then l.content fun c => (Mark.anchor c).map fun (name, c) => (.anchor name, c)
    else if ch == '!' then l.content fun c => (Mark.tag c).map fun (name, c) => (.tag name, c)
    else if ch == '|' && !l.inFlow then l.block false
    else if ch == '>' && !l.inFlow then l.block true
    else if ch == '\'' || ch == '"' then
      l.content fun c => (Quote.scan (ch == '"') c).map fun (text, c) => (.scalar text false, c)
    else if l.startsPlain ch then l.plain
    else .error .malformed

/- Finds tokens until the first one is certain. Every step but the last consumes a character. -/
def settle : Nat → Lexer → Step
  | 0, l => .ok l
  | fuel + 1, l =>
    if l.finished then .ok l
    else if l.queue.isEmpty then do
      let l ← l.next
      settle fuel l
    else do
      let l ← l.dropStale
      if l.candidates.any (·.position == l.taken) then do
        let l ← l.next
        settle fuel l
      else .ok l

def peek (l : Lexer) : Except Fault (Token × Lexer) := do
  let l ← settle (l.cursor.fuel + 1) l
  match l.queue with
  | token :: _ => .ok (token, l)
  | [] => .error .malformed

def drop (l : Lexer) : Lexer :=
  { l with queue := l.queue.tail, taken := l.taken + 1 }

def ofText (text : List Char) : Lexer :=
  let cursor := Cursor.start text
  { cursor := if cursor.sees (· == '\ufeff') then cursor.advance else cursor }

end Lexer
end UtilityLayout.Yaml
