import UtilityLayout.Session

/-! What one action does to a workspace. An action looks up one theme, or copies one, or clears the cache, or
edits the files from outside, or does nothing; a request to a tool is one of the first two or the last. -/
namespace UtilityLayout.Session

def wanted? : Action → Option String
  | .get name | .ask (.describeTheme name) => some name
  | .ask (.convert _ theme?) | .ask (.explain _ theme?) => some (Service.themeName theme?)
  | _ => none

def copied? : Action → Option String
  | .copy name | .ask (.copyTheme name) => some name
  | _ => none

def response (found : Except Failure (Option Theme)) : Service.Request → Json
  | .convert classes theme? => respond (Service.shownName theme?) fun theme =>
      Service.conversion theme (theme.convert classes)
  | .explain classes theme? => respond (Service.shownName theme?) fun theme =>
      Service.explanation (theme.explain classes)
  | .describeTheme name => respond name fun theme => Service.success [("theme", theme.toJson)]
  | _ => .null
where
  respond (shown : String) (answer : Theme → Json) : Json := match found with
    | .ok (some theme) => answer theme
    | .ok none => Service.notFound shown
    | .error failure => Service.error failure.message

theorem withThemeRespond (w : Workspace) (name shown : String) (answer : Theme → Json) :
    Service.withTheme w name shown answer =
      (response.respond (w.get name).1 shown answer, (w.get name).2) := by
  unfold Service.withTheme response.respond
  rcases w.get name with ⟨failure | _ | theme, after⟩ <;> rfl

theorem answerWanted {w : Workspace} {request : Service.Request} {name : String}
    (wanted : wanted? (.ask request) = some name) :
    Service.answer w request = (response (w.get name).1 request, (w.get name).2) := by
  cases request with
  | convert classes theme? =>
    cases wanted
    exact withThemeRespond w _ _ _
  | explain classes theme? =>
    cases wanted
    exact withThemeRespond w _ _ _
  | describeTheme other =>
    cases wanted
    exact withThemeRespond w _ _ _
  | listThemes => contradiction
  | copyTheme other => contradiction

theorem stepWanted {w : Workspace} {action : Action} {name : String}
    (wanted : wanted? action = some name) : (step w action).2 = (w.get name).2 := by
  cases action with
  | get other =>
    cases wanted
    rfl
  | ask request =>
    simp only [step, Service.reply, answerWanted wanted]
  | _ => contradiction

theorem stepCopied {w : Workspace} {action : Action} {name : String}
    (copied : copied? action = some name) : (step w action).2 = (w.copy name).2 := by
  cases action with
  | copy other =>
    cases copied
    rfl
  | ask request =>
    cases request with
    | copyTheme other =>
      cases copied
      simp only [step, Service.reply, Service.answer]
      rcases w.copy name with ⟨failure | _ | path, after⟩ <;> rfl
    | _ => contradiction
  | _ => contradiction

theorem stepList (w : Workspace) : (step w .list).2 = w ∧ (step w (.ask .listThemes)).2 = w := by
  refine ⟨rfl, ?_⟩
  simp only [step, Service.reply, Service.answer]
  split <;> rfl

theorem getThemes (w : Workspace) (name : String) :
    (w.get name).2 = { w with themes := w.themes.remember name (w.get name).1 } :=
  rfl

theorem copyThemes (w : Workspace) (name : String) :
    (w.copy name).2.themes = match (w.copy name).1 with
      | .ok (some _) => w.themes.forget name
      | _ => w.themes := by
  unfold Workspace.copy
  split
  · rfl
  · dsimp only
    split
    · rfl
    · rfl
    · split
      · rfl
      · unfold Workspace.copyFile
        split
        · rfl
        · rfl
        · split
          · rfl
          · split <;> rfl

theorem stepOther {w : Workspace} {action : Action} (wanted : wanted? action = none)
    (copied : copied? action = none) (clear : action ≠ .clear) :
    (step w action).2.themes = w.themes := by
  cases action with
  | list => rfl
  | get name => contradiction
  | copy name => contradiction
  | clear => contradiction
  | ask request =>
    cases request with
    | listThemes => rw [(stepList w).2]
    | _ => contradiction
  | write path text =>
    simp only [step, Workspace.write]
    split
    · rfl
    · split <;> rfl
  | makeDirectory path =>
    simp only [step, Workspace.makeDirectory]
    split <;> rfl
  | remove path =>
    simp only [step, Workspace.remove]
    split <;> rfl

theorem stepPlaces (w : Workspace) (action : Action) :
    (step w action).2.themes.library = w.themes.library ∧
      (step w action).2.themes.project? = w.themes.project? := by
  cases wanted : wanted? action with
  | some name =>
    rw [stepWanted wanted, getThemes]
    rcases (w.get name).1 with failure | _ | theme <;> exact ⟨rfl, rfl⟩
  | none =>
    cases copied : copied? action with
    | some name =>
      rw [stepCopied copied, copyThemes]
      split <;> exact ⟨rfl, rfl⟩
    | none =>
      by_cases clear : action = .clear
      · subst clear
        exact ⟨rfl, rfl⟩
      · rw [stepOther wanted copied clear]
        exact ⟨rfl, rfl⟩

theorem runPlaces (w : Workspace) (actions : List Action) :
    (after w actions).themes.library = w.themes.library ∧
      (after w actions).themes.project? = w.themes.project? := by
  induction actions generalizing w with
  | nil => exact ⟨rfl, rfl⟩
  | cons action rest ih =>
    obtain ⟨library, project⟩ := ih (step w action).2
    exact ⟨library.trans (stepPlaces w action).1, project.trans (stepPlaces w action).2⟩

theorem runCandidates (w : Workspace) (actions : List Action) (name : String) :
    (after w actions).themes.candidates name = w.themes.candidates name := by
  obtain ⟨library, project⟩ := runPlaces w actions
  rw [ThemeStore.candidates, ThemeStore.candidates, library, project]

end UtilityLayout.Session
