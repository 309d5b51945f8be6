import UtilityLayout.Text.Basic
import UtilityLayout.Text.CaseTable
/-! Full lower-casing of Unicode 14. One character gives one character, with two exceptions: capital I
with a dot above gives i and a combining dot, and capital sigma gives its final form at the end of a
word (after a cased letter and before none, looking through case-ignorable characters). -/
namespace UtilityLayout.Text

def isCased (c : Char) : Bool :=
  if c.toNat < 0x80 then c.isAlpha else inRanges casedRanges c

def isCaseIgnorable (c : Char) : Bool :=
  inRanges caseIgnorableRanges c

def lowerChar (c : Char) : List Char :=
  if c.toNat < 0x80 then [c.toLower]
  else if c = '\u0130' then ['i', '\u0307']
  else match lowerRuns.find? (·.contains c) with
    | some run => [run.image c]
    | none => [c]

def startsCased (text : List Char) : Bool :=
  match text.dropWhile isCaseIgnorable with
  | c :: _ => isCased c
  | [] => false

def lowerAfter (afterCased : Bool) : List Char → List Char
  | [] => []
  | c :: rest =>
    let image :=
      if c = 'Σ' then [if afterCased && !startsCased rest then 'ς' else 'σ'] else lowerChar c
    image ++ lowerAfter (if isCaseIgnorable c then afterCased else isCased c) rest

def lower (text : List Char) : List Char :=
  lowerAfter false text

def lowerRun (run : List Char) : List CodePoint → List CodePoint
  | [] => (lower run.reverse).map .char
  | .char c :: rest => lowerRun (c :: run) rest
  | half :: rest => (lower run.reverse).map .char ++ half :: lowerRun [] rest

/- The lower-case form of code points. A half of a pair stays, and ends a word like any uncased character. -/
def lowerPoints (points : List CodePoint) : List CodePoint :=
  lowerRun [] points

end UtilityLayout.Text
