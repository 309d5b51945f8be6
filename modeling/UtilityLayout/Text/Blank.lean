import UtilityLayout.Text.Split
/-! White space of class texts: the Unicode property White_Space together with the four information
separators U+001C to U+001F. The zero-width characters (U+180E, U+200B, U+2060, U+FEFF) are no space. -/
namespace UtilityLayout.Text

def isBlank (c : Char) : Bool :=
  let n := c.toNat
  (0x09 ≤ n && n ≤ 0x0d) || (0x1c ≤ n && n ≤ 0x20) || n == 0x85 || n == 0xa0 || n == 0x1680 ||
    (0x2000 ≤ n && n ≤ 0x200a) || n == 0x2028 || n == 0x2029 || n == 0x202f || n == 0x205f ||
    n == 0x3000

/- The Unicode property alone: the information separators are left out. -/
def isWhiteSpace (c : Char) : Bool :=
  isBlank c && !(0x1c ≤ c.toNat && c.toNat ≤ 0x1f)

def trimBy (drops : Char → Bool) (text : List Char) : List Char :=
  ((text.dropWhile drops).reverse.dropWhile drops).reverse

def trim (text : List Char) : List Char :=
  trimBy isBlank text

def words (text : List Char) : List (List Char) :=
  (split isBlank text).filter fun word => !word.isEmpty

theorem wordsNonempty {text word : List Char} (mem : word ∈ words text) : word ≠ [] := by
  have := (List.mem_filter.mp mem).2
  intro h
  simp [h] at this

theorem wordsClean {text word : List Char} {c : Char} (mem : word ∈ words text)
    (inside : c ∈ word) : isBlank c = false :=
  splitPieceClean (List.mem_filter.mp mem).1 inside

theorem trimClean {text : List Char} (h : ∀ c ∈ text, isBlank c = false) :
    trim text = text := by
  have keep : ∀ {l : List Char}, (∀ c ∈ l, isBlank c = false) → l.dropWhile isBlank = l := by
    intro l hl
    cases l with
    | nil => rfl
    | cons c rest => simp [List.dropWhile, hl c (by simp)]
  have back : ∀ c ∈ text.reverse, isBlank c = false := fun c hc => h c (List.mem_reverse.mp hc)
  simp [trim, trimBy, keep h, keep back]

end UtilityLayout.Text
