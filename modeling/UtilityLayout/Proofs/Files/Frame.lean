import UtilityLayout.Proofs.Files.Making

/-! What file operations leave alone. Whatever the tree, making directories adds nothing but directories, where nothing
was; and where a path leads is settled by what is a file and what a directory, never by what a file says. -/
namespace UtilityLayout.FileTree
open FileError (Cause)

def Spread (t s : FileTree) : Prop :=
  s.workingDirectory = t.workingDirectory ∧
    ∀ location, s.entry? location = t.entry? location ∨
      t.entry? location = none ∧ s.entry? location = some .directory

theorem spreadSelf (t : FileTree) : Spread t t :=
  ⟨rfl, fun _ => .inl rfl⟩

theorem spreadGrown {t s : FileTree} (spread : Spread t s) : Grown t s := by
  refine ⟨spread.1, ?_⟩
  intro location entry found
  rcases spread.2 location with same | ⟨absent, _⟩
  · rw [same, found]
  · rw [absent] at found
    contradiction

variable {t s r : FileTree} {path : Path}

def Paved (t s : FileTree) (path : Path) : Prop :=
  s.workingDirectory = t.workingDirectory ∧
    ∀ location, s.entry? location = t.entry? location ∨
      t.entry? location = none ∧ s.entry? location = some .directory ∧
        ∃ front, front <+: path.parts ∧ s.locate ⟨path.anchor, front⟩ = .ok location

theorem pavedSelf (t : FileTree) (path : Path) : Paved t t path :=
  ⟨rfl, fun _ => .inl rfl⟩

theorem pavedSpread (paved : Paved t s path) : Spread t s :=
  ⟨paved.1, fun location => (paved.2 location).imp_right fun ⟨absent, directory, _⟩ => ⟨absent, directory⟩⟩

theorem pavedGrown (paved : Paved t s path) : Grown t s :=
  spreadGrown (pavedSpread paved)

theorem pavedFurther {front : List String} (before : front <+: path.parts) (first : Paved t s ⟨path.anchor, front⟩)
    (second : Paved s r path) : Paved t r path := by
  have grown := pavedGrown second
  refine ⟨second.1.trans first.1, ?_⟩
  intro location
  rcases first.2 location with same | ⟨absent, directory, start, within, leads⟩
  · rw [← same]
    exact second.2 location
  · exact .inr ⟨absent, grown.2 _ _ directory, start, within.trans before, locateGrown grown leads⟩

theorem ensureDirectoryPaved (t : FileTree) (path : Path) : Paved t (t.ensureDirectory path).1 path := by
  unfold ensureDirectory
  split
  · rename_i made makes
    obtain ⟨location, leads, absent, rfl⟩ := makeDirectoryOk makes
    refine ⟨rfl, fun other => ?_⟩
    rw [entrySet t (notRootOfAbsent absent)]
    split
    · rename_i here
      cases here
      exact .inr ⟨absent, rfl, path.parts, List.prefix_rfl, locateGrown (grownSet absent .directory) leads⟩
    · exact .inl rfl
  · split <;> exact pavedSelf t path

theorem ensurePartsPaved (t : FileTree) (anchor : Anchor) (parts : List String) :
    Paved t (t.ensureParts anchor parts).1 ⟨anchor, parts.reverse⟩ := by
  induction parts with
  | nil => exact ensureDirectoryPaved t _
  | cons last parents ih =>
    have before : parents.reverse <+: (last :: parents).reverse := ⟨[last], List.reverse_cons.symm⟩
    rw [ensureParts]
    split
    · split
      · rename_i made result
        rw [result] at ih
        exact pavedFurther before ih (ensureDirectoryPaved made _)
      · exact pavedFurther before ih (pavedSelf _ _)
    · exact ensureDirectoryPaved t _

theorem ensureDirectoriesPaved (t : FileTree) (path : Path) : Paved t (t.ensureDirectories path).1 path := by
  have paved := ensurePartsPaved t path.anchor path.parts.reverse
  rwa [List.reverse_reverse] at paved

theorem ensureDirectoriesSpread (t : FileTree) (path : Path) : Spread t (t.ensureDirectories path).1 :=
  pavedSpread (ensureDirectoriesPaved t path)

inductive SameKind : Option Entry → Option Entry → Prop where
  | nothing : SameKind none none
  | file (text other : String) : SameKind (some (.file text)) (some (.file other))
  | directory : SameKind (some .directory) (some .directory)

def SameShape (t s : FileTree) : Prop :=
  s.workingDirectory = t.workingDirectory ∧ ∀ location, SameKind (t.entry? location) (s.entry? location)

theorem stepShape (shape : SameShape t s) : s.step = t.step := by
  funext location part
  have kind := shape.2 location
  unfold step
  generalize t.entry? location = here, s.entry? location = there at kind
  cases kind <;> rfl

theorem locateShape (shape : SameShape t s) (path : Path) : s.locate path = t.locate path := by
  rw [locate, locate, start, start, shape.1, stepShape shape]

inductive LookupShape : Except Cause Entry → Except Cause Entry → Prop where
  | error (cause : Cause) : LookupShape (.error cause) (.error cause)
  | file (text other : String) : LookupShape (.ok (.file text)) (.ok (.file other))
  | directory : LookupShape (.ok .directory) (.ok .directory)

theorem lookupShape (shape : SameShape t s) (path : Path) : LookupShape (t.lookup path) (s.lookup path) := by
  have same := locateShape shape path
  cases leads : t.locate path with
  | error cause =>
    rw [leads] at same
    rw [lookupUnlocated leads, lookupUnlocated same]
    exact .error cause
  | ok location =>
    have kind := shape.2 location
    rw [leads] at same
    rw [lookupLocated leads, lookupLocated same]
    generalize t.entry? location = here, s.entry? location = there at kind
    cases kind with
    | nothing => exact .error Cause.missing
    | file text other => exact .file text other
    | directory => exact .directory

theorem existsShape (shape : SameShape t s) (path : Path) : s.exists? path = t.exists? path := by
  have found := lookupShape shape path
  unfold exists?
  generalize t.lookup path = here, s.lookup path = there at found
  cases found <;> rfl

theorem isDirectoryShape (shape : SameShape t s) (path : Path) : s.isDirectory path = t.isDirectory path := by
  have found := lookupShape shape path
  unfold isDirectory
  generalize t.lookup path = here, s.lookup path = there at found
  cases found <;> rfl

theorem readShape (shape : SameShape t s) (path : Path) :
    (∃ failure, t.readText path = .error failure ∧ s.readText path = .error failure) ∨
      ∃ text other, t.readText path = .ok text ∧ s.readText path = .ok other := by
  have found := lookupShape shape path
  unfold readText FileTree.read
  generalize t.lookup path = here, s.lookup path = there at found
  cases found with
  | error cause => exact .inl ⟨_, rfl, rfl⟩
  | file text other => exact .inr ⟨_, _, rfl, rfl⟩
  | directory => exact .inl ⟨_, rfl, rfl⟩

theorem setShape (shape : SameShape t s) {location : Location} (notRoot : location ≠ []) {entry other : Entry}
    (kind : SameKind (some entry) (some other)) : SameShape (t.set location entry) (s.set location other) := by
  refine ⟨shape.1, ?_⟩
  intro place
  rw [entrySet s notRoot, entrySet t notRoot]
  split
  · exact kind
  · exact shape.2 place

inductive ResultShape {ε : Type} : Except ε FileTree → Except ε FileTree → Prop where
  | error (failure : ε) : ResultShape (.error failure) (.error failure)
  | ok {t s : FileTree} (shape : SameShape t s) : ResultShape (.ok t) (.ok s)

theorem makeDirectoryShape (shape : SameShape t s) (path : Path) :
    ResultShape (t.makeDirectory path) (s.makeDirectory path) := by
  have same := locateShape shape path
  cases leads : t.locate path with
  | error cause =>
    rw [leads] at same
    rw [makeDirectory, makeDirectory, leads, same]
    exact .error cause
  | ok location =>
    have kind := shape.2 location
    rw [leads] at same
    rw [makeDirectoryLocated leads, makeDirectoryLocated same]
    have made (absent : t.entry? location = none) := setShape shape (notRootOfAbsent absent) .directory
    generalize t.entry? location = here, s.entry? location = there at kind made
    cases kind with
    | nothing => exact .ok (made rfl)
    | file text other => exact .error Cause.present
    | directory => exact .error Cause.present

theorem writeShape (shape : SameShape t s) (path : Path) (text other : String) :
    ResultShape (t.write path text) (s.write path other) := by
  have same := locateShape shape path
  unfold write
  cases leads : t.locate path with
  | error cause =>
    rw [leads] at same
    rw [same]
    exact .error _
  | ok location =>
    have kind := shape.2 location
    rw [leads] at same
    rw [same]
    by_cases root : location = []
    · subst root
      exact .error _
    · have written := setShape shape root (.file text other)
      dsimp only
      generalize t.entry? location = here, s.entry? location = there at kind
      cases kind with
      | nothing => exact .ok written
      | file before after => exact .ok written
      | directory => exact .error _

def MadeAlike (first second : FileTree × Option FileError) : Prop :=
  SameShape first.1 second.1 ∧ second.2 = first.2

theorem ensureDirectoryShape (shape : SameShape t s) (path : Path) :
    MadeAlike (t.ensureDirectory path) (s.ensureDirectory path) := by
  have made := makeDirectoryShape shape path
  unfold ensureDirectory
  rw [isDirectoryShape shape]
  generalize t.makeDirectory path = first, s.makeDirectory path = second at made
  cases made with
  | ok made => exact ⟨made, rfl⟩
  | error cause =>
    dsimp only
    split <;> exact ⟨shape, rfl⟩

theorem ensurePartsShape (shape : SameShape t s) (anchor : Anchor) (parts : List String) :
    MadeAlike (t.ensureParts anchor parts) (s.ensureParts anchor parts) := by
  induction parts with
  | nil => exact ensureDirectoryShape shape _
  | cons last parents ih =>
    have here := ensureDirectoryShape shape ⟨anchor, (last :: parents).reverse⟩
    have made := makeDirectoryShape shape ⟨anchor, (last :: parents).reverse⟩
    rw [ensureParts, ensureParts]
    generalize t.makeDirectory _ = first, s.makeDirectory _ = second at made
    cases made with
    | ok made => exact here
    | error cause =>
      cases cause with
      | missing =>
        rcases first : t.ensureParts anchor parents with ⟨made, failed⟩
        rcases second : s.ensureParts anchor parents with ⟨other, again⟩
        rw [first, second] at ih
        obtain ⟨below, same⟩ := ih
        cases same
        cases failed with
        | none => exact ensureDirectoryShape below _
        | some cause => exact ⟨below, rfl⟩
      | _ => exact here

theorem ensureDirectoriesShape (shape : SameShape t s) (path : Path) :
    MadeAlike (t.ensureDirectories path) (s.ensureDirectories path) :=
  ensurePartsShape shape path.anchor path.parts.reverse

end UtilityLayout.FileTree
