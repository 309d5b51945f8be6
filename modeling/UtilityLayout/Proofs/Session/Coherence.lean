import UtilityLayout.Proofs.Session.Steps
import UtilityLayout.Proofs.Store.Probe

/-! The cache told by the history of a run. A theme is in the cache exactly if some lookup of its name returned
it and neither a clearing nor a successful copy of that name came after. So a lookup answers with the theme that
was returned, whatever the files have become, and otherwise with what the files give at that moment. -/
namespace UtilityLayout.Session

def Forgets (w : Workspace) (action : Action) (name : String) : Prop :=
  action = .clear ∨ (copied? action = some name ∧ ∃ path, (w.copy name).1 = .ok (some path))

def Undisturbed (w : Workspace) (actions : List Action) (name : String) : Prop :=
  ∀ before action rest, actions = before ++ action :: rest → ¬Forgets (after w before) action name

/- Some action of a run looked the name up and was given the theme, and nothing later made it forgotten. -/
def Kept (w : Workspace) (actions : List Action) (name : String) (theme : Theme) : Prop :=
  ∃ before action rest, actions = before ++ action :: rest ∧ wanted? action = some name ∧
    ((after w before).get name).1 = .ok (some theme) ∧
    Undisturbed (after w (before ++ [action])) rest name

theorem undisturbedNil (w : Workspace) (name : String) : Undisturbed w [] name := by
  intro before action rest split
  simp at split

theorem undisturbedCons (w : Workspace) (action : Action) (rest : List Action) (name : String) :
    Undisturbed w (action :: rest) name ↔
      ¬Forgets w action name ∧ Undisturbed (step w action).2 rest name := by
  constructor
  · intro undisturbed
    refine ⟨undisturbed [] action rest rfl, ?_⟩
    intro before next others split
    exact undisturbed (action :: before) next others (by rw [split]; rfl)
  · rintro ⟨here, later⟩ before next others split
    cases before with
    | nil =>
      cases split
      exact here
    | cons first before =>
      cases split
      exact later before next others rfl

theorem keptNil (w : Workspace) (name : String) (theme : Theme) : ¬Kept w [] name theme := by
  rintro ⟨before, action, rest, split, _⟩
  simp at split

theorem keptCons (w : Workspace) (action : Action) (rest : List Action) (name : String)
    (theme : Theme) :
    Kept w (action :: rest) name theme ↔
      (wanted? action = some name ∧ (w.get name).1 = .ok (some theme) ∧
        Undisturbed (step w action).2 rest name) ∨ Kept (step w action).2 rest name theme := by
  constructor
  · rintro ⟨before, next, others, split, wanted, found, undisturbed⟩
    cases before with
    | nil =>
      cases split
      exact .inl ⟨wanted, found, undisturbed⟩
    | cons first before =>
      cases split
      exact .inr ⟨before, next, others, rfl, wanted, found, undisturbed⟩
  · rintro (⟨wanted, found, undisturbed⟩ | ⟨before, next, others, split, wanted, found, undisturbed⟩)
    · exact ⟨[], action, rest, rfl, wanted, found, undisturbed⟩
    · exact ⟨action :: before, next, others, by rw [split]; rfl, wanted, found, undisturbed⟩

theorem getCached {w : Workspace} {name : String} {theme : Theme}
    (cached : w.themes.cache.find? name = some theme) : (w.get name).1 = .ok (some theme) := by
  simp only [Workspace.get, ThemeStore.find?, cached]

theorem getUncached {w : Workspace} {name : String} (absent : w.themes.cache.find? name = none) :
    (w.get name).1 = ThemeStore.firstTheme? w.files (w.themes.candidates name) := by
  simp only [Workspace.get, ThemeStore.find?, absent]

theorem rememberFind (store : ThemeStore) (name other : String)
    (found : Except Failure (Option Theme)) :
    (store.remember name found).cache.find? other = match found with
      | .ok (some theme) => if other = name then some theme else store.cache.find? other
      | _ => store.cache.find? other := by
  rcases found with failure | _ | theme
  · rfl
  · rfl
  · exact Table.findInsert _ _ _ _

theorem cacheAfterGet (w : Workspace) (name other : String) (theme : Theme) :
    (w.get name).2.themes.cache.find? other = some theme ↔
      w.themes.cache.find? other = some theme ∨
        (other = name ∧ (w.get name).1 = .ok (some theme)) := by
  rw [getThemes, rememberFind]
  constructor
  · intro cached
    split at cached
    · rename_i found same
      split at cached
      · rename_i here
        cases cached
        exact .inr ⟨here, same⟩
      · exact .inl cached
    · exact .inl cached
  · rintro (cached | ⟨rfl, found⟩)
    · split
      · rename_i found same
        split
        · rename_i here
          rw [← here, getCached cached] at same
          cases same
          rfl
        · exact cached
      · exact cached
    · rw [found]
      exact if_pos rfl

theorem cacheAfterCopy (w : Workspace) (name other : String) (theme : Theme) :
    (w.copy name).2.themes.cache.find? other = some theme ↔
      ¬(name = other ∧ ∃ path, (w.copy other).1 = .ok (some path)) ∧
        w.themes.cache.find? other = some theme := by
  rw [copyThemes]
  split
  · rename_i path copied
    simp only [ThemeStore.forget, Table.findErase]
    split
    · rename_i same
      subst same
      simp [copied]
    · rename_i differs
      simp [Ne.symm differs]
  · rename_i failed
    constructor
    · intro cached
      refine ⟨?_, cached⟩
      rintro ⟨rfl, path, copied⟩
      exact failed path copied
    · exact And.right

theorem wantedOnly {action : Action} {name : String} (wanted : wanted? action = some name) :
    copied? action = none ∧ action ≠ .clear := by
  cases action with
  | get other => simp [copied?]
  | ask request => cases request <;> first | contradiction | simp [copied?]
  | _ => contradiction

theorem copiedNotClear {action : Action} {name : String} (copied : copied? action = some name) :
    action ≠ .clear := by
  rintro rfl
  contradiction

theorem cacheStep (w : Workspace) (action : Action) (name : String) (theme : Theme) :
    (step w action).2.themes.cache.find? name = some theme ↔
      (¬Forgets w action name ∧ w.themes.cache.find? name = some theme) ∨
        (wanted? action = some name ∧ (w.get name).1 = .ok (some theme)) := by
  cases wanted : wanted? action with
  | some other =>
    obtain ⟨copied, clear⟩ := wantedOnly wanted
    have remembers : ¬Forgets w action name := by simp [Forgets, copied, clear]
    rw [stepWanted wanted, cacheAfterGet, Option.some_inj]
    constructor
    · rintro (cached | ⟨rfl, found⟩)
      · exact .inl ⟨remembers, cached⟩
      · exact .inr ⟨rfl, found⟩
    · rintro (⟨_, cached⟩ | ⟨rfl, found⟩)
      · exact .inl cached
      · exact .inr ⟨rfl, found⟩
  | none =>
    cases copied : copied? action with
    | some other =>
      rw [stepCopied copied, cacheAfterCopy]
      simp [Forgets, copied, copiedNotClear copied]
    | none =>
      by_cases clear : action = .clear
      · subst clear
        have forgets : Forgets w .clear name := .inl rfl
        simp [forgets, show (step w .clear).2.themes.cache.find? name = none from rfl]
      · rw [stepOther wanted copied clear]
        simp [Forgets, copied, clear]

theorem cacheRun (w : Workspace) (actions : List Action) (name : String) (theme : Theme) :
    (after w actions).themes.cache.find? name = some theme ↔
      Kept w actions name theme ∨
        (Undisturbed w actions name ∧ w.themes.cache.find? name = some theme) := by
  induction actions generalizing w with
  | nil =>
    simp only [keptNil, undisturbedNil, false_or, true_and]
    rfl
  | cons action rest ih =>
    have next : after w (action :: rest) = after (step w action).2 rest := rfl
    rw [next, ih, cacheStep, keptCons, undisturbedCons]
    constructor
    · rintro (kept | ⟨undisturbed, ⟨remembers, cached⟩ | ⟨wanted, found⟩⟩)
      · exact .inl (.inr kept)
      · exact .inr ⟨⟨remembers, undisturbed⟩, cached⟩
      · exact .inl (.inl ⟨wanted, found, undisturbed⟩)
    · rintro ((⟨wanted, found, undisturbed⟩ | kept) | ⟨⟨remembers, undisturbed⟩, cached⟩)
      · exact .inr ⟨undisturbed, .inr ⟨wanted, found⟩⟩
      · exact .inl kept
      · exact .inr ⟨undisturbed, .inl ⟨remembers, cached⟩⟩

theorem freshKept (files : FileTree) (library : Path) (project? : Option Path)
    (actions : List Action) (name : String) (theme : Theme) :
    (after ⟨files, .fresh library project?⟩ actions).themes.cache.find? name = some theme ↔
      Kept ⟨files, .fresh library project?⟩ actions name theme := by
  have empty : (ThemeStore.fresh library project?).cache.find? name = none := rfl
  simp [cacheRun, empty]

theorem getNothing {w : Workspace} {name : String}
    (nothing : ∀ theme, (w.get name).1 ≠ .ok (some theme)) : (w.get name).2 = w := by
  rw [getThemes]
  cases found : (w.get name).1 with
  | error failure => rfl
  | ok theme? =>
    cases theme? with
    | none => rfl
    | some theme => exact absurd found (nothing theme)

theorem listIgnoresCache (w : Workspace) (cache : Table String Theme) :
    let other : Workspace := { w with themes := { w.themes with cache } }
    step other .list = ((step w .list).1, other) ∧
      step other (.ask .listThemes) = ((step w (.ask .listThemes)).1, other) := by
  intro other
  have same : other.list = w.list := rfl
  refine ⟨rfl, ?_⟩
  simp only [step, Service.reply, Service.answer, same]
  split <;> rfl

/- At every point of a run a lookup answers with the theme that the history keeps. Where it keeps none, the
answer hangs on the two files alone; and what is no theme is not kept. -/
theorem getCoherent (files : FileTree) (library : Path) (project? : Option Path)
    (actions : List Action) (name : String) :
    let fresh : ThemeStore := .fresh library project?
    let start : Workspace := ⟨files, fresh⟩
    let w := after start actions
    (∀ theme, Kept start actions name theme →
      ∀ disk, (({ w with files := disk } : Workspace).get name).1 = .ok (some theme)) ∧
    ((∀ theme, ¬Kept start actions name theme) →
      (∀ disk, (∀ path ∈ fresh.candidates name, disk.lookup path = w.files.lookup path) →
        (w.get name).1 = ((⟨disk, fresh⟩ : Workspace).get name).1) ∧
      ∀ found, (w.get name).1 = .ok found →
        found = (project?.bind fun project =>
            ThemeStore.loaded? w.files (ThemeStore.fileOf project name)).or
          (ThemeStore.loaded? w.files (ThemeStore.fileOf library name))) ∧
    (∀ action, wanted? action = some name → (step w action).2 = (w.get name).2) ∧
    ((∀ theme, (w.get name).1 ≠ .ok (some theme)) → (w.get name).2 = w) ∧
    ∀ cache, let other : Workspace := { w with themes := { w.themes with cache } }
      step other .list = ((step w .list).1, other) ∧
        step other (.ask .listThemes) = ((step w (.ask .listThemes)).1, other) := by
  intro fresh start w
  refine ⟨?_, ?_, fun action wanted => stepWanted wanted, getNothing, listIgnoresCache w⟩
  · intro theme kept disk
    exact getCached (w := { w with files := disk }) ((freshKept _ _ _ _ _ _).mpr kept)
  · intro forgotten
    have absent : w.themes.cache.find? name = none := by
      cases cached : w.themes.cache.find? name with
      | none => rfl
      | some theme => exact absurd ((freshKept _ _ _ _ _ _).mp cached) (forgotten theme)
    have looked := getUncached absent
    rw [runCandidates] at looked
    refine ⟨?_, ?_⟩
    · intro disk same
      rw [looked, ← ThemeStore.firstThemeCongr same]
      exact (getUncached (w := ⟨disk, fresh⟩) rfl).symm
    · intro found returns
      rw [looked] at returns
      rw [ThemeStore.firstThemeLoaded returns]
      exact ThemeStore.findSomeCandidates fresh name _

end UtilityLayout.Session
