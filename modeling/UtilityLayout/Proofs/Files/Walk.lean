import UtilityLayout.Files.Tree

/-! Where paths lead. Some paths are refused whatever the tree; all others are walked part by part. In a rooted
tree everything stands in a directory; adding entries where nothing is leaves every walk alone that has
succeeded. -/
namespace UtilityLayout.FileTree
open FileError (Cause)

def Rooted (t : FileTree) : Prop :=
  t.entry? t.workingDirectory = some .directory ∧
    ∀ location entry, t.entry? location = some entry → t.entry? location.dropLast = some .directory

def refused? (path : Path) : Option Cause :=
  if path.parts.any fun part => part.toList.contains '\x00' then some .nullCharacter
  else if pathLimit ≤ path.text.utf8ByteSize then some .nameTooLong
  else none

def walk (t : FileTree) (path : Path) : Except Cause Location :=
  path.parts.foldlM t.step (t.start path)

theorem locateRefused {path : Path} {cause : Cause} (refused : refused? path = some cause)
    (t : FileTree) : t.locate path = .error cause := by
  unfold refused? at refused
  unfold locate
  split at refused
  · rename_i null
    cases refused
    exact if_pos null
  · rename_i plain
    rw [if_neg plain]
    split at refused
    · rename_i long
      cases refused
      exact if_pos long
    · contradiction

theorem locateWalk {path : Path} (accepted : refused? path = none) (t : FileTree) :
    t.locate path = t.walk path := by
  unfold refused? at accepted
  split at accepted
  · contradiction
  · rename_i plain
    split at accepted
    · contradiction
    · rename_i short
      unfold locate
      rw [if_neg plain, if_neg short]
      rfl

theorem acceptedOfLocate {t : FileTree} {path : Path} {location : Location}
    (leads : t.locate path = .ok location) : refused? path = none := by
  cases refused : refused? path with
  | none => rfl
  | some cause =>
    rw [locateRefused refused] at leads
    contradiction

theorem walkOfLocate {t : FileTree} {path : Path} {location : Location}
    (leads : t.locate path = .ok location) : t.walk path = .ok location := by
  rw [← locateWalk (acceptedOfLocate leads), leads]

theorem lookupLocated {t : FileTree} {path : Path} {location : Location}
    (leads : t.locate path = .ok location) :
    t.lookup path = match t.entry? location with
      | some entry => .ok entry
      | none => .error .missing := by
  rw [lookup, leads]
  rfl

theorem lookupUnlocated {t : FileTree} {path : Path} {cause : Cause}
    (fails : t.locate path = .error cause) : t.lookup path = .error cause := by
  rw [lookup, fails]
  rfl

theorem locateOfLookup {t : FileTree} {path : Path} {entry : Entry}
    (leads : t.lookup path = .ok entry) :
    ∃ location, t.locate path = .ok location ∧ t.entry? location = some entry := by
  cases found : t.locate path with
  | error cause =>
    rw [lookupUnlocated found] at leads
    contradiction
  | ok location =>
    rw [lookupLocated found] at leads
    split at leads
    · rename_i same
      cases leads
      exact ⟨location, rfl, same⟩
    · contradiction

theorem stepOk {t : FileTree} {location next : Location} {part : String}
    (steps : t.step location part = .ok next) :
    t.entry? location = some .directory ∧
      ((part = ".." ∧ next = location.dropLast) ∨
        (part ≠ ".." ∧ part.utf8ByteSize ≤ longestName ∧ next = location ++ [part])) := by
  unfold step at steps
  split at steps
  · contradiction
  · contradiction
  · rename_i directory
    refine ⟨directory, ?_⟩
    split at steps
    · rename_i up
      cases steps
      exact .inl ⟨up, rfl⟩
    · rename_i down
      split at steps
      · contradiction
      · rename_i short
        cases steps
        exact .inr ⟨down, Nat.le_of_not_lt short, rfl⟩

theorem stepDown {t : FileTree} {location : Location} {part : String}
    (directory : t.entry? location = some .directory) (down : part ≠ "..") :
    t.step location part =
      if longestName < part.utf8ByteSize then .error .nameTooLong else .ok (location ++ [part]) := by
  simp only [step, directory, if_neg down]

theorem walkChild (t : FileTree) (path : Path) (name : String) :
    t.walk (path.child name) = match t.walk path with
      | .ok location => t.step location name
      | .error cause => .error cause := by
  unfold walk
  rw [Path.child, List.foldlM_append]
  change (path.parts.foldlM t.step (t.start path)).bind (fun location => [name].foldlM t.step location) = _
  cases path.parts.foldlM t.step (t.start path) with
  | error cause => rfl
  | ok location => exact bind_pure (t.step location name)

def Wider (t s : FileTree) : Prop :=
  s.workingDirectory = t.workingDirectory ∧
    ∀ location, t.entry? location = some .directory → s.entry? location = some .directory

def Grown (t s : FileTree) : Prop :=
  s.workingDirectory = t.workingDirectory ∧
    ∀ location entry, t.entry? location = some entry → s.entry? location = some entry

theorem grownWider {t s : FileTree} (grown : Grown t s) : Wider t s :=
  ⟨grown.1, fun location => grown.2 location .directory⟩

theorem stepWider {t s : FileTree} (wider : Wider t s) {location next : Location} {part : String}
    (steps : t.step location part = .ok next) : s.step location part = .ok next := by
  obtain ⟨directory, ⟨rfl, rfl⟩ | ⟨down, short, rfl⟩⟩ := stepOk steps
  · simp only [step, wider.2 _ directory, if_true]
  · rw [stepDown (wider.2 _ directory) down, if_neg (Nat.not_lt_of_le short)]

theorem foldWider {t s : FileTree} (wider : Wider t s) {parts : List String}
    {location last : Location} (leads : parts.foldlM t.step location = .ok last) :
    parts.foldlM s.step location = .ok last := by
  induction parts generalizing location with
  | nil => exact leads
  | cons part rest ih =>
    rw [List.foldlM_cons] at leads ⊢
    cases steps : t.step location part with
    | error cause =>
      rw [steps] at leads
      contradiction
    | ok next =>
      rw [steps] at leads
      rw [stepWider wider steps]
      exact ih leads

theorem startWider {t s : FileTree} (wider : Wider t s) (path : Path) : s.start path = t.start path := by
  rw [start, start, wider.1]

theorem walkWider {t s : FileTree} (wider : Wider t s) {path : Path} {location : Location}
    (leads : t.walk path = .ok location) : s.walk path = .ok location := by
  rw [walk, startWider wider]
  exact foldWider wider leads

theorem locateWider {t s : FileTree} (wider : Wider t s) {path : Path} {location : Location}
    (leads : t.locate path = .ok location) : s.locate path = .ok location := by
  have accepted := acceptedOfLocate leads
  rw [locateWalk accepted] at leads ⊢
  exact walkWider wider leads

theorem walkGrown {t s : FileTree} (grown : Grown t s) {path : Path} {location : Location}
    (leads : t.walk path = .ok location) : s.walk path = .ok location :=
  walkWider (grownWider grown) leads

theorem locateGrown {t s : FileTree} (grown : Grown t s) {path : Path} {location : Location}
    (leads : t.locate path = .ok location) : s.locate path = .ok location :=
  locateWider (grownWider grown) leads

theorem entrySet (t : FileTree) {location : Location} (notRoot : location ≠ []) (entry : Entry)
    (other : Location) :
    entry? (t.set location entry) other = if other = location then some entry else t.entry? other := by
  simp only [set, entry?, Table.findInsert]
  by_cases root : other = []
  · simp [root, Ne.symm notRoot]
  · simp [root]

theorem notRootOfAbsent {t : FileTree} {location : Location} (absent : t.entry? location = none) :
    location ≠ [] := by
  rintro rfl
  contradiction

theorem grownSet {t : FileTree} {location : Location} (absent : t.entry? location = none)
    (entry : Entry) : Grown t (t.set location entry) := by
  refine ⟨rfl, ?_⟩
  intro other old found
  rw [entrySet t (notRootOfAbsent absent), if_neg]
  · exact found
  · rintro rfl
    rw [absent] at found
    contradiction

theorem rootedOfKeys {t : FileTree} (start : t.entry? t.workingDirectory = some .directory)
    (inside : ∀ key ∈ t.entries.keys, t.entry? key.dropLast = some .directory) : Rooted t := by
  refine ⟨start, ?_⟩
  intro location entry found
  unfold entry? at found
  split at found
  · rename_i root
    subst root
    rfl
  · exact inside location (List.mem_map.mpr ⟨_, Table.memberOfFind _ found, rfl⟩)

theorem startRooted {t : FileTree} (rooted : Rooted t) (path : Path) :
    t.entry? (t.start path) = some .directory := by
  unfold start
  split
  · exact rooted.1
  · rfl

end UtilityLayout.FileTree
