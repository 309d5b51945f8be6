import UtilityLayout.Text.Split
/-! Texts as sequences of code points. A code point is a character, or half of a surrogate pair that stands
for itself: no character has such a code, yet an escape in a document may name it. -/
namespace UtilityLayout

inductive CodePoint where
  | char (c : Char)
  /-- The code 0xd800 and up, below 0xe000. -/
  | half (offset : Fin 0x800)
  deriving DecidableEq, Repr

namespace CodePoint

def ofNat (code : Nat) : CodePoint :=
  if h : 0xd800 ≤ code ∧ code < 0xe000 then half ⟨code - 0xd800, by omega⟩
  else char (Char.ofNat code)

def code : CodePoint → Nat
  | char c => c.toNat
  | half offset => 0xd800 + offset.val

def char? : CodePoint → Option Char
  | char c => some c
  | half _ => none

def shown : CodePoint → Char
  | char c => c
  | half _ => '\ufffd'

end CodePoint

@[ext] structure Text where
  points : List CodePoint
  deriving DecidableEq, Repr

namespace Text

def ofChars (characters : List Char) : Text :=
  ⟨characters.map .char⟩

def ofString (s : String) : Text :=
  ofChars s.toList

instance : Coe String Text := ⟨ofString⟩

instance : Append Text := ⟨fun a b => ⟨a.points ++ b.points⟩⟩

def isEmpty (t : Text) : Bool :=
  t.points.isEmpty

def chars? (t : Text) : Option (List Char) :=
  t.points.mapM CodePoint.char?

def string? (t : Text) : Option String :=
  t.chars?.map String.ofList

/- The characters as far as there are any. A half counts as a character that is neither a letter, a digit
nor white space. -/
def chars (t : Text) : List Char :=
  t.points.map CodePoint.shown

def intercalate (separator : Text) (texts : List Text) : Text :=
  ⟨join separator.points (texts.map points)⟩

@[simp] theorem pointsAppend (a b : Text) : (a ++ b).points = a.points ++ b.points := rfl

@[simp] theorem pointsOfString (s : String) : (ofString s).points = s.toList.map .char := rfl

theorem ofStringAppend (a b : String) : ofString (a ++ b) = ofString a ++ ofString b := by
  ext1
  simp

theorem charsOfChars (characters : List Char) : (ofChars characters).chars? = some characters := by
  simp only [chars?, ofChars]
  induction characters with
  | nil => rfl
  | cons c rest ih => simp [CodePoint.char?, ih]

theorem ofCharsInjective {a b : List Char} (h : ofChars a = ofChars b) : a = b := by
  have := congrArg chars? h
  rw [charsOfChars, charsOfChars] at this
  exact Option.some.inj this

theorem stringOfString (s : String) : (ofString s).string? = some s := by
  simp [string?, ofString, charsOfChars]

end Text
end UtilityLayout
