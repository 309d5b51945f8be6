import UtilityLayout.Numeral.Plain

/-! Numerals told by their parts: a sign or none, digits with at most one point and a digit on one side of it, an
exponent or none. A text is read exactly if it is spelled so, and the parts are what is read. -/
namespace UtilityLayout.Numeral

inductive Sign : Bool → List Char → Prop where
  | none : Sign false []
  | plus : Sign false ['+']
  | minus : Sign true ['-']

def AllDigits (style : NumeralStyle) (text : List Char) : Prop :=
  ∀ c ∈ text, style.isDigit c = true

inductive Significand (style : NumeralStyle) : List Char → List Char → List Char → Prop where
  | whole {digits} (some : digits ≠ []) (all : AllDigits style digits) : Significand style digits [] digits
  | pointed {digits places} (some : digits ≠ [] ∨ places ≠ []) (before : AllDigits style digits)
      (after : AllDigits style places) : Significand style digits places (digits ++ '.' :: places)

inductive Exponent (style : NumeralStyle) : Int → List Char → Prop where
  | none : Exponent style 0 []
  | marked {mark negative sign digits} (marks : style.isExponentMark mark = true) (signed : Sign negative sign)
      (some : digits ≠ []) (all : AllDigits style digits) :
      Exponent style (if negative then -(Text.digitsValue digits : Int) else Text.digitsValue digits)
        (mark :: (sign ++ digits))

inductive Spelled (style : NumeralStyle) : List Char → Decimal → Prop where
  | parts {negative sign digits places body exponent tail} (signed : Sign negative sign)
      (significand : Significand style digits places body) (scaled : Exponent style exponent tail) :
      Spelled style (sign ++ (body ++ tail))
        ⟨negative, Text.digitsValue (digits ++ places), exponent - places.length⟩

structure Separate (style : NumeralStyle) : Prop where
  plus : style.isDigit '+' = false
  minus : style.isDigit '-' = false
  point : style.isDigit '.' = false
  marks : ∀ mark, style.isExponentMark mark = true → style.isDigit mark = false ∧ mark ≠ '.'

def Stops (style : NumeralStyle) (rest : List Char) : Prop :=
  ∀ c ∈ rest.head?, style.isDigit c = false

variable {style : NumeralStyle}

theorem takeDigits {digits rest : List Char} (all : AllDigits style digits) (stops : Stops style rest) :
    (digits ++ rest).takeWhile style.isDigit = digits ∧ (digits ++ rest).dropWhile style.isDigit = rest := by
  rw [List.takeWhile_append_of_pos all, List.dropWhile_append_of_pos all]
  cases rest with
  | nil => simp
  | cons c more =>
    have other : style.isDigit c = false := stops c rfl
    simp [other]

theorem leadingDigits (text : List Char) : AllDigits style (text.takeWhile style.isDigit) := by
  intro c inside
  exact List.all_eq_true.mp List.all_takeWhile c inside

theorem takeSignSigned {negative : Bool} {sign rest : List Char} (signed : Sign negative sign)
    (unsigned : ∀ c ∈ rest.head?, c ≠ '+' ∧ c ≠ '-') : takeSign (sign ++ rest) = (negative, rest) := by
  cases signed with
  | plus => rfl
  | minus => rfl
  | none =>
    cases rest with
    | nil => rfl
    | cons c more =>
      obtain ⟨notPlus, notMinus⟩ := unsigned c rfl
      simp [takeSign, notPlus, notMinus]

theorem signedOfTake {text rest : List Char} {negative : Bool} (taken : takeSign text = (negative, rest)) :
    ∃ sign, Sign negative sign ∧ text = sign ++ rest := by
  unfold takeSign at taken
  split at taken
  · cases taken
    exact ⟨_, .minus, rfl⟩
  · cases taken
    exact ⟨_, .plus, rfl⟩
  · cases taken
    exact ⟨_, .none, rfl⟩

theorem digitUnsigned (separate : Separate style) {c : Char} (digit : style.isDigit c = true) :
    c ≠ '+' ∧ c ≠ '-' ∧ c ≠ '.' := by
  refine ⟨?_, ?_, ?_⟩
  · rintro rfl
    rw [separate.plus] at digit
    contradiction
  · rintro rfl
    rw [separate.minus] at digit
    contradiction
  · rintro rfl
    rw [separate.point] at digit
    contradiction

theorem exponentRead (separate : Separate style) {exponent : Int} {tail : List Char} :
    exponent? style tail = some exponent ↔ Exponent style exponent tail := by
  constructor
  · intro read
    cases tail with
    | nil =>
      cases read
      exact .none
    | cons mark rest =>
      rcases taken : takeSign rest with ⟨negative, digits⟩
      simp only [exponent?, taken] at read
      split at read
      · rename_i written
        cases read
        simp only [Bool.and_eq_true, Bool.not_eq_true', List.isEmpty_eq_false_iff, List.all_eq_true] at written
        obtain ⟨sign, signed, rfl⟩ := signedOfTake taken
        exact .marked written.1.1 signed written.1.2 written.2
      · contradiction
  · intro scaled
    cases scaled with
    | none => rfl
    | @marked mark negative sign digits marks signed some all =>
      have taken : takeSign (sign ++ digits) = (negative, digits) := by
        refine takeSignSigned signed fun c head => ?_
        obtain ⟨notPlus, notMinus, _⟩ := digitUnsigned separate (all c (List.mem_of_mem_head? head))
        exact ⟨notPlus, notMinus⟩
      have every : digits.all style.isDigit = true := List.all_eq_true.mpr all
      simp [exponent?, taken, marks, some, every]

theorem exponentStops (separate : Separate style) {exponent : Int} {tail : List Char}
    (scaled : Exponent style exponent tail) : Stops style tail ∧ ∀ c ∈ tail.head?, c ≠ '.' := by
  cases scaled with
  | none =>
    constructor
    · intro c head
      contradiction
    · intro c head
      contradiction
  | marked marks =>
    constructor
    · intro c head
      cases head
      exact (separate.marks _ marks).1
    · intro c head
      cases head
      exact (separate.marks _ marks).2

theorem significandTaken (separate : Separate style) {digits places body tail : List Char}
    (significand : Significand style digits places body) (stops : Stops style tail)
    (noPoint : ∀ c ∈ tail.head?, c ≠ '.') : takeSignificand style (body ++ tail) = (digits, places, tail) := by
  cases significand with
  | whole some all =>
    obtain ⟨taken, dropped⟩ := takeDigits all stops
    cases tail with
    | nil => simp only [takeSignificand, taken, dropped]
    | cons c rest =>
      have other : c ≠ '.' := noPoint c rfl
      simp [takeSignificand, taken, dropped, other]
  | pointed some before after =>
    have point : Stops style ('.' :: (places ++ tail)) := by
      intro c head
      cases head
      exact separate.point
    obtain ⟨taken, dropped⟩ := takeDigits before point
    obtain ⟨takenAfter, droppedAfter⟩ := takeDigits after stops
    simp only [takeSignificand, List.append_assoc, List.cons_append, taken, dropped, takenAfter, droppedAfter]

theorem significandOfTake {text digits places tail : List Char}
    (taken : takeSignificand style text = (digits, places, tail)) (some : digits ≠ [] ∨ places ≠ []) :
    ∃ body, Significand style digits places body ∧ text = body ++ tail := by
  have whole := @List.takeWhile_append_dropWhile _ style.isDigit text
  have all : AllDigits style (text.takeWhile style.isDigit) := leadingDigits text
  unfold takeSignificand at taken
  split at taken
  · rename_i rest dropped
    cases taken
    refine ⟨_, .pointed some all (leadingDigits rest), ?_⟩
    rw [List.append_assoc, List.cons_append, List.takeWhile_append_dropWhile, ← dropped, whole]
  · cases taken
    refine ⟨_, .whole (some.resolve_right fun places => places rfl) all, ?_⟩
    rw [whole]

theorem significandStarts {digits places body : List Char} (significand : Significand style digits places body)
    (tail : List Char) : ∃ c rest, body ++ tail = c :: rest ∧ (style.isDigit c = true ∨ c = '.') := by
  have first {text : List Char} (some : text ≠ []) (all : AllDigits style text) (rest : List Char) :
      ∃ c more, text ++ rest = c :: more ∧ style.isDigit c = true := by
    obtain ⟨c, more, rfl⟩ := List.exists_cons_of_ne_nil some
    exact ⟨c, more ++ rest, rfl, all c List.mem_cons_self⟩
  cases significand with
  | whole some all =>
    obtain ⟨c, more, same, digit⟩ := first some all tail
    exact ⟨c, more, same, .inl digit⟩
  | pointed some before after =>
    by_cases bare : digits = []
    · subst bare
      exact ⟨'.', _, rfl, .inr rfl⟩
    · obtain ⟨c, more, same, digit⟩ := first bare before ('.' :: places ++ tail)
      exact ⟨c, more, by rw [List.append_assoc]; exact same, .inl digit⟩

theorem readSpelled (separate : Separate style) {text : List Char} {decimal : Decimal} :
    read? style text = some decimal ↔ Spelled style text decimal := by
  constructor
  · intro read
    rcases signs : takeSign text with ⟨negative, unsigned⟩
    rcases significands : takeSignificand style unsigned with ⟨digits, places, tail⟩
    simp only [read?, signs, significands] at read
    split at read
    · contradiction
    · rename_i none
      obtain ⟨exponent, scaled, rfl⟩ := Option.map_eq_some_iff.mp read
      have some : digits ≠ [] ∨ places ≠ [] := by
        rw [Bool.and_eq_true, List.isEmpty_iff, List.isEmpty_iff] at none
        exact Classical.not_and_iff_not_or_not.mp none
      obtain ⟨sign, signed, rfl⟩ := signedOfTake signs
      obtain ⟨body, significand, rfl⟩ := significandOfTake significands some
      exact .parts signed significand ((exponentRead separate).mp scaled)
  · intro spelled
    cases spelled with
    | @parts negative sign digits places body exponent tail signed significand scaled =>
      obtain ⟨stops, noPoint⟩ := exponentStops separate scaled
      have signs : takeSign (sign ++ (body ++ tail)) = (negative, body ++ tail) := by
        refine takeSignSigned signed fun c head => ?_
        obtain ⟨first, rest, same, digit | point⟩ := significandStarts significand tail
        · rw [same] at head
          cases head
          exact ⟨(digitUnsigned separate digit).1, (digitUnsigned separate digit).2.1⟩
        · rw [same] at head
          cases head
          subst point
          decide
      have taken := significandTaken separate significand stops noPoint
      have some : (digits.isEmpty && places.isEmpty) = false := by
        cases significand with
        | whole some _ => simp [some]
        | pointed some _ _ => rcases some with some | some <;> simp [some]
      simp only [read?, signs, taken, some, (exponentRead separate).mpr scaled, Bool.false_eq_true, if_false,
        Option.map_some]

end UtilityLayout.Numeral
