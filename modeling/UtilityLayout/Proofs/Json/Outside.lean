import UtilityLayout.Json.Reader
import UtilityLayout.Proofs.Json.Grammar

/-! What stands outside the strings of a text. No text of the grammar has there a capital letter of the words for the
numbers that JSON lacks, and a text that has one is no part of such a text. -/
namespace UtilityLayout.Json.Grammar

inductive Place where
  | outside
  | inside
  | escaped
  deriving DecidableEq, Repr

def next? : Place → Char → Option Place
  | .outside, c =>
    if c = '"' then some .inside else if c ∈ ['N', 'I'] then none else some .outside
  | .inside, c =>
    if c = '"' then some .outside else if c = '\\' then some .escaped else some .inside
  | .escaped, _ => some .inside

def placeAfter? (place : Place) (text : List Char) : Option Place :=
  text.foldlM next? place

def Neutral (text : List Char) : Prop :=
  placeAfter? .outside text = some .outside

instance (text : List Char) : Decidable (Neutral text) := by
  unfold Neutral; infer_instance

theorem placeAppend (place : Place) (first second : List Char) :
    placeAfter? place (first ++ second) = (placeAfter? place first).bind (placeAfter? · second) :=
  List.foldlM_append

theorem neutralAppend {first second : List Char} (one : Neutral first) (two : Neutral second) :
    Neutral (first ++ second) := by
  rw [Neutral, placeAppend, one]
  exact two

theorem placeSame {place : Place} {text : List Char} (same : ∀ c ∈ text, next? place c = some place) :
    placeAfter? place text = some place := by
  induction text with
  | nil => rfl
  | cons c rest ih =>
    have tail := ih fun d inside => same d (List.mem_cons_of_mem _ inside)
    rw [placeAfter?, List.foldlM_cons, same c List.mem_cons_self]
    exact tail

theorem neutralPlain {text : List Char} (plain : ∀ c ∈ text, c ∉ ['"', 'N', 'I']) : Neutral text := by
  refine placeSame fun c inside => ?_
  have other := plain c inside
  simp only [List.mem_cons, List.not_mem_nil, or_false, not_or] at other
  simp [next?, other]

theorem gapNeutral {gap : List Char} (blank : IsGap gap) : Neutral gap := by
  refine neutralPlain fun c inside => ?_
  have known := blank c inside
  simp only [List.mem_cons, List.not_mem_nil, or_false] at known
  rcases known with rfl | rfl | rfl | rfl <;> decide

theorem numberCharacters {text : List Char} (number : IsNumber text) : text.all isNumberChar = true := by
  have digits {text : List Char} (written : Numeral.IsDigits text) : text.all isNumberChar = true := by
    rw [List.all_eq_true]
    intro c inside
    simp [isNumberChar, written.2 c inside]
  obtain ⟨sign, whole, fraction, exponent, signed, wholly, fractional, exponential, rfl⟩ := number
  simp only [List.all_append, Bool.and_eq_true]
  refine ⟨⟨⟨?_, ?_⟩, ?_⟩, ?_⟩
  · rcases signed with rfl | rfl <;> rfl
  · rcases wholly with rfl | ⟨written, _⟩
    · rfl
    · exact digits written
  · rcases fractional with rfl | ⟨others, written, rfl⟩
    · rfl
    · rw [List.all_cons, digits written]
      rfl
  · rcases exponential with rfl | ⟨mark, marked, sign, signed, others, written, rfl⟩
    · rfl
    · have begins : (mark :: sign).all isNumberChar = true := by
        simp only [List.mem_cons, List.not_mem_nil, or_false] at marked signed
        rcases marked with rfl | rfl <;> rcases signed with rfl | rfl | rfl <;> rfl
      rw [List.all_append, begins, digits written]
      rfl

theorem numberNeutral {text : List Char} (number : IsNumber text) : Neutral text := by
  refine neutralPlain fun c inside mark => ?_
  have known := List.all_eq_true.mp (numberCharacters number) c inside
  simp only [List.mem_cons, List.not_mem_nil, or_false] at mark
  rcases mark with rfl | rfl | rfl <;> contradiction

theorem insidePlain {text : List Char} (free : ∀ c ∈ text, c ≠ '"' ∧ c ≠ '\\') :
    placeAfter? .inside text = some .inside :=
  placeSame fun c inside => by simp [next?, free c inside]

theorem hexFree {c : Char} {value : Nat} (digit : Text.hexValue? c = some value) : c ≠ '"' ∧ c ≠ '\\' := by
  constructor
  · intro quote
    subst quote
    contradiction
  · intro backslash
    subst backslash
    contradiction

theorem unitInside {unit : Nat} {digits : List Char} (written : IsUnit unit digits) :
    placeAfter? .inside digits = some .inside := by
  obtain ⟨first, second, third, fourth⟩ := written
  refine insidePlain fun c inside => ?_
  simp only [List.mem_cons, List.not_mem_nil, or_false] at inside
  rcases inside with rfl | rfl | rfl | rfl
  · exact hexFree first
  · exact hexFree second
  · exact hexFree third
  · exact hexFree fourth

theorem bodyInside {units : List Nat} {body : List Char} (written : IsBody units body) :
    placeAfter? .inside body = some .inside := by
  induction written with
  | nil => rfl
  | @plain c units text shown free rest ih =>
    have step : placeAfter? .inside [c] = some .inside := insidePlain (by simpa using free)
    rw [← List.singleton_append, placeAppend, step]
    exact ih
  | short known rest ih => exact ih
  | unit written rest ih =>
    have mark : placeAfter? .inside ['\\', 'u'] = some .inside := by decide
    rw [placeAppend, placeAppend, mark, Option.bind_some, unitInside written]
    exact ih

theorem quotedNeutral {units : List Nat} {body : List Char} (written : IsBody units body) :
    Neutral (quoted body) := by
  have opened : placeAfter? .outside ['"'] = some .inside := by decide
  have closed : placeAfter? .inside ['"'] = some .outside := by decide
  have parts : quoted body = ['"'] ++ body ++ ['"'] := rfl
  rw [Neutral, parts, placeAppend, placeAppend, opened, Option.bind_some, bodyInside written]
  exact closed

theorem surroundedNeutral {opening closing : Char} {text : List Char} (first : Neutral [opening])
    (inner : Neutral text) (last : Neutral [closing]) : Neutral ([opening] ++ text ++ [closing]) :=
  neutralAppend (neutralAppend first inner) last

theorem spellsNeutral {part : Part} {text : List Char} (spelled : Spells part text) : Neutral text := by
  induction spelled with
  | null | yes | no => decide
  | number number => exact numberNeutral number
  | string written => exact quotedNeutral written
  | noItems blank | noMembers blank => exact surroundedNeutral (by decide) (gapNeutral blank) (by decide)
  | array _ inner | object _ inner => exact surroundedNeutral (by decide) inner (by decide)
  | spaced start _ finish value =>
    exact neutralAppend (neutralAppend (gapNeutral start) value) (gapNeutral finish)
  | lastItem _ last | lastMember _ last => exact last
  | moreItems _ _ first rest | moreMembers _ _ first rest =>
    exact neutralAppend (neutralAppend first (by decide)) rest
  | member first name second third _ fourth value =>
    have before := neutralAppend (neutralAppend (gapNeutral first) (quotedNeutral name)) (gapNeutral second)
    have colon : Neutral [':'] := by decide
    exact neutralAppend (neutralAppend (neutralAppend (neutralAppend before colon) (gapNeutral third)) value)
      (gapNeutral fourth)

end UtilityLayout.Json.Grammar
