import UtilityLayout.Text.Blank
import UtilityLayout.Numeral.Plain
/-! Numbers that are given as text where a number is wanted. Two readings: the liberal one of theme
documents (digits of every script) and the one of typed fields (ASCII digits, single underscores inside).
Both allow Unicode white space around, and know the words for infinity and not-a-number in any letter
case. -/
namespace UtilityLayout.Numeral

def sameWord (text : List Char) (word : String) : Bool :=
  text.map Char.toLower == word.toList

def word? (text : List Char) : Option Binary64 :=
  let (negative, unsigned) := takeSign text
  if sameWord unsigned "inf" || sameWord unsigned "infinity" then some (.infinite negative)
  else if sameWord unsigned "nan" then some .nan
  else none

def isEitherE (c : Char) : Bool :=
  c == 'e' || c == 'E'

def bare? (isDigit : Char → Bool) (text : List Char) : Option Binary64 :=
  match word? text with
  | some value => some value
  | none => (read? ⟨isDigit, isEitherE⟩ text).map Decimal.toBinary64

def liberal? (text : List Char) : Option Binary64 :=
  bare? Text.isDigit (Text.trimBy Text.isWhiteSpace text)

def withoutUnderscores? (text : List Char) : Option (List Char) :=
  let pieces := Text.split (· == '_') text
  if pieces.length ≤ 1 || pieces.any (·.isEmpty) then none else some pieces.flatten

def typed? (text : List Char) : Option Binary64 :=
  match bare? Text.isAsciiDigit (Text.trimBy Text.isWhiteSpace text) with
  | some value => some value
  | none => (withoutUnderscores? text).bind (bare? Text.isAsciiDigit)

end UtilityLayout.Numeral
