/-! Lists of results. All of them succeed, or the first failure is the failure of the whole. -/
namespace UtilityLayout
variable {ε α β : Type} {f : α → Except ε β}

theorem mapErrorOk {δ : Type} (g : ε → δ) (value : α) : (Except.ok value).mapError g = .ok value :=
  rfl

theorem mapErrorError {δ : Type} (g : ε → δ) (failure : ε) :
    (Except.error failure : Except ε α).mapError g = .error (g failure) :=
  rfl

theorem okOfMapError {δ : Type} {g : ε → δ} {result : Except ε α} {value : α}
    (returns : result.mapError g = .ok value) : result = .ok value := by
  cases result with
  | error failure => cases returns
  | ok other =>
    cases returns
    rfl

theorem mapOk {result : Except ε α} {g : α → β} {value : β} (returns : result.map g = .ok value) :
    ∃ a, result = .ok a ∧ g a = value := by
  cases result with
  | error failure => cases returns
  | ok a =>
    cases returns
    exact ⟨a, rfl, rfl⟩

@[simp] theorem okBind {γ : Type} (a : α) (next : α → Except ε γ) : (Except.ok a >>= next) = next a :=
  rfl

theorem errorOfNone {result : Except ε α} (fails : result.toOption.isNone = true) :
    ∃ failure, result = .error failure := by
  cases result with
  | error failure => exact ⟨failure, rfl⟩
  | ok value => contradiction

theorem okOfOption {result : Except ε α} {value : α} (returns : result.toOption = some value) :
    result = .ok value := by
  cases result with
  | error failure => contradiction
  | ok other =>
    cases returns
    rfl

theorem bindOk {γ : Type} {result : Except ε α} {next : α → Except ε γ} {value : γ}
    (returns : (result >>= next) = .ok value) : ∃ a, result = .ok a ∧ next a = .ok value := by
  cases result with
  | error failure => cases returns
  | ok a => exact ⟨a, rfl, returns⟩

theorem mapMConsOk {a : α} {rest : List α} {bs : List β} (returns : (a :: rest).mapM f = .ok bs) :
    ∃ b tail, f a = .ok b ∧ rest.mapM f = .ok tail ∧ bs = b :: tail := by
  rw [List.mapM_cons] at returns
  obtain ⟨b, first, returns⟩ := bindOk returns
  obtain ⟨tail, others, returns⟩ := bindOk returns
  cases returns
  exact ⟨b, tail, first, others, rfl⟩

theorem mapMBoth {f : α → Option β} {list : List α} {read : List β} (reads : list.mapM f = some read) :
    ∃ both : List (α × β), both.map Prod.fst = list ∧ both.map Prod.snd = read ∧ ∀ b ∈ both, f b.1 = some b.2 := by
  induction list generalizing read with
  | nil =>
    cases reads
    exact ⟨[], rfl, rfl, by simp⟩
  | cons a rest ih =>
    rw [List.mapM_cons] at reads
    obtain ⟨c, first, reads⟩ := Option.bind_eq_some_iff.mp reads
    obtain ⟨tail, others, reads⟩ := Option.bind_eq_some_iff.mp reads
    cases reads
    obtain ⟨both, rfl, rfl, each⟩ := ih others
    exact ⟨(a, c) :: both, rfl, rfl, List.forall_mem_cons.mpr ⟨first, each⟩⟩

theorem mapMOk {g : α → β} (agree : ∀ a b, f a = .ok b → g a = b) {list : List α} {bs : List β}
    (returns : list.mapM f = .ok bs) : bs = list.map g := by
  induction list generalizing bs with
  | nil =>
    cases returns
    rfl
  | cons a rest ih =>
    obtain ⟨b, tail, first, others, rfl⟩ := mapMConsOk returns
    rw [List.map_cons, agree a b first, ih others]

theorem mapMCongr {g : α → Except ε β} {list : List α} (same : ∀ a ∈ list, f a = g a) : list.mapM f = list.mapM g := by
  induction list with
  | nil => rfl
  | cons a rest ih =>
    have others := ih fun b inside => same b (List.mem_cons_of_mem _ inside)
    rw [List.mapM_cons, List.mapM_cons, same a List.mem_cons_self, others]

theorem mapMTotal {g : α → β} (total : ∀ a, f a = .ok (g a)) (list : List α) :
    list.mapM f = .ok (list.map g) := by
  rw [funext total]
  exact List.mapM_pure

theorem foldlMTotal {step : α → β → Except ε α} {g : α → β → α} (total : ∀ a b, step a b = .ok (g a b)) (a : α)
    (list : List β) : list.foldlM step a = .ok (list.foldl g a) := by
  rw [funext fun a => funext (total a)]
  exact List.foldlM_pure

theorem mapMOkMember {list : List α} {bs : List β} (returns : list.mapM f = .ok bs) {a : α}
    (inside : a ∈ list) : ∃ b, f a = .ok b := by
  induction list generalizing bs with
  | nil => cases inside
  | cons first rest ih =>
    obtain ⟨b, tail, here, others, rfl⟩ := mapMConsOk returns
    rcases List.mem_cons.mp inside with rfl | inside
    · exact ⟨b, here⟩
    · exact ih others inside

theorem mapMErrorMember {list : List α} {failure : ε} (fails : list.mapM f = .error failure) :
    ∃ a ∈ list, f a = .error failure := by
  induction list with
  | nil => cases fails
  | cons a rest ih =>
    rw [List.mapM_cons] at fails
    cases first : f a with
    | error cause =>
      rw [first] at fails
      cases fails
      exact ⟨a, List.mem_cons_self, first⟩
    | ok b =>
      rw [first] at fails
      cases others : rest.mapM f with
      | error cause =>
        rw [others] at fails
        cases fails
        obtain ⟨a, inside, fails⟩ := ih others
        exact ⟨a, List.mem_cons_of_mem _ inside, fails⟩
      | ok tail =>
        rw [others] at fails
        cases fails

theorem mapMError {list : List α} :
    (∃ failure, list.mapM f = .error failure) ↔ ∃ a ∈ list, ∃ failure, f a = .error failure := by
  constructor
  · rintro ⟨failure, fails⟩
    obtain ⟨a, inside, fails⟩ := mapMErrorMember fails
    exact ⟨a, inside, failure, fails⟩
  · rintro ⟨a, inside, failure, fails⟩
    cases whole : list.mapM f with
    | error cause => exact ⟨cause, rfl⟩
    | ok bs =>
      obtain ⟨b, returns⟩ := mapMOkMember whole inside
      rw [fails] at returns
      cases returns

end UtilityLayout
