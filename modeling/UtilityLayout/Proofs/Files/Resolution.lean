import UtilityLayout.Files.Path
import UtilityLayout.Proofs.Text.Words

/-! Absolute paths by rewriting. From the parts of a text, those that stand for nothing go, and double dots go with the
name before them or alone at the root; in whatever order that is done, the names of the absolute path are left. -/
namespace UtilityLayout.Path

def Idle (part : String) : Prop :=
  part = "" ∨ part = "."

def Names (part : String) : Prop :=
  ¬Idle part ∧ part ≠ ".."

structure EntryName (part : String) : Prop where
  names : Names part
  noSlash : '/' ∉ part.toList
  noNull : '\x00' ∉ part.toList

instance (part : String) : Decidable (Idle part) :=
  inferInstanceAs (Decidable (_ ∨ _))

inductive Resolves : List String → List String → Prop where
  | done {names : List String} (all : ∀ part ∈ names, Names part) : Resolves names names
  | idle {before after names : List String} {part : String} (nowhere : Idle part)
      (rest : Resolves (before ++ after) names) : Resolves (before ++ part :: after) names
  | back {before after names : List String} {part : String} (down : Names part)
      (rest : Resolves (before ++ after) names) : Resolves (before ++ part :: ".." :: after) names
  | top {after names : List String} (rest : Resolves after names) : Resolves (".." :: after) names

def pieces (text : String) : List String :=
  (Text.split (· == '/') text.toList).map String.ofList

def origin (workingDirectory : List String) (text : String) : List String :=
  if text.toList.head? = some '/' then [] else workingDirectory

def partsFrom (workingDirectory : List String) (text : String) : List String :=
  origin workingDirectory text ++ pieces text

def climb (done : List String) (part : String) : List String :=
  if Idle part then done else if part = ".." then done.dropLast else done ++ [part]

variable {parts names done before after : List String} {part : String}

theorem climbIdle (nowhere : Idle part) : climb done part = done :=
  if_pos nowhere

theorem climbBack : climb done ".." = done.dropLast := by
  have moves : ¬Idle ".." := by decide
  rw [climb, if_neg moves, if_pos rfl]

theorem climbName (down : Names part) : climb done part = done ++ [part] := by
  rw [climb, if_neg down.1, if_neg down.2]

theorem climbNames (all : ∀ part ∈ names, Names part) : names.foldl climb done = done ++ names := by
  induction names generalizing done with
  | nil => rw [List.foldl_nil, List.append_nil]
  | cons part rest ih =>
    obtain ⟨down, others⟩ := List.forall_mem_cons.mp all
    rw [List.foldl_cons, climbName down, ih others, List.append_assoc, List.singleton_append]

theorem climbOfResolves (resolves : Resolves parts names) : parts.foldl climb [] = names := by
  induction resolves with
  | done all => rw [climbNames all, List.nil_append]
  | idle nowhere _ ih => rw [List.foldl_append, List.foldl_cons, climbIdle nowhere, ← List.foldl_append, ih]
  | back down _ ih =>
    rw [List.foldl_append, List.foldl_cons, List.foldl_cons, climbName down, climbBack, List.dropLast_concat,
      ← List.foldl_append, ih]
  | top _ ih => rw [List.foldl_cons, climbBack, List.dropLast_nil, ih]

theorem resolvesFrom (all : ∀ part ∈ done, Names part) (parts : List String) :
    Resolves (done ++ parts) (parts.foldl climb done) := by
  induction parts generalizing done with
  | nil =>
    rw [List.append_nil]
    exact .done all
  | cons part rest ih =>
    rw [List.foldl_cons]
    by_cases nowhere : Idle part
    · rw [climbIdle nowhere]
      exact .idle nowhere (ih all)
    · by_cases dots : part = ".."
      · subst dots
        rw [climbBack]
        rcases List.eq_nil_or_concat done with rfl | ⟨first, last, rfl⟩
        · exact .top (ih all)
        · rw [List.concat_eq_append] at all ⊢
          obtain ⟨others, down⟩ := List.forall_mem_append.mp all
          rw [List.dropLast_concat, List.append_assoc]
          exact .back (down last List.mem_cons_self) (ih others)
      · have down : Names part := ⟨nowhere, dots⟩
        have longer : ∀ other ∈ done ++ [part], Names other :=
          List.forall_mem_append.mpr ⟨all, by simpa using down⟩
        have onward := ih longer
        rw [List.append_assoc, List.singleton_append] at onward
        rw [climbName down]
        exact onward

theorem resolvesIff : Resolves parts names ↔ names = parts.foldl climb [] := by
  constructor
  · exact fun resolves => (climbOfResolves resolves).symm
  · rintro rfl
    have none : ∀ part ∈ ([] : List String), Names part := nofun
    exact resolvesFrom none parts

theorem resolvesSublist (resolves : Resolves parts names) : names.Sublist parts := by
  induction resolves with
  | done => exact List.Sublist.refl _
  | idle _ _ ih => exact ih.trans ((List.Sublist.refl _).append (List.sublist_cons_self ..))
  | back _ _ ih =>
    exact ih.trans ((List.Sublist.refl _).append ((List.sublist_cons_self ..).trans (List.sublist_cons_self ..)))
  | top _ ih => exact ih.trans (List.sublist_cons_self ..)

theorem resolvesNames (resolves : Resolves parts names) : ∀ part ∈ names, Names part := by
  induction resolves with
  | done all => exact all
  | idle _ _ ih | back _ _ ih | top _ ih => exact ih

theorem idleLetters (piece : List Char) : Idle (String.ofList piece) ↔ piece = [] ∨ piece = ['.'] :=
  or_congr (@String.ofList_inj piece []) (@String.ofList_inj piece ['.'])

theorem componentsPieces (text : String) :
    components text.toList = (pieces text).filter fun part => !decide (Idle part) := by
  have kept (piece : List Char) : (!(piece.isEmpty || piece == ['.'])) = !decide (Idle (String.ofList piece)) := by
    rw [Bool.eq_iff_iff]
    simp [idleLetters]
  rw [components, pieces, List.filter_map, funext kept]
  rfl

theorem resolveMoving (base parts : List String) :
    resolveParts base (parts.filter fun part => !decide (Idle part)) = parts.foldl climb base := by
  induction parts generalizing base with
  | nil => rfl
  | cons part rest ih =>
    rw [List.foldl_cons, ← ih, List.filter_cons]
    by_cases nowhere : Idle part
    · rw [climbIdle nowhere]
      simp [nowhere]
    · rw [climb, if_neg nowhere]
      simp [nowhere, resolveParts]

theorem movingNames (all : ∀ part ∈ names, Names part) :
    names.filter (fun part => !decide (Idle part)) = names := by
  refine List.filter_eq_self.mpr fun part inside => ?_
  simp [(all part inside).1]

theorem anchorRelative (text : List Char) : anchorOf text = .relative ↔ text.head? ≠ some '/' := by
  cases text with
  | nil => simp [anchorOf]
  | cons c rest =>
    unfold anchorOf
    split <;> simp_all

theorem absoluteResolves {workingDirectory : List String} (working : ∀ part ∈ workingDirectory, Names part)
    (text : String) :
    Resolves (partsFrom workingDirectory text) names ↔
      (ofText text).absolute workingDirectory = ⟨.root, names⟩ := by
  have start : (if anchorOf text.toList = .relative then workingDirectory else []) = origin workingDirectory text := by
    simp only [origin, anchorRelative, ne_eq, ite_not]
  have named : ∀ part ∈ origin workingDirectory text, Names part := by
    unfold origin
    split
    · exact nofun
    · exact working
  have names : (ofText text).absolute workingDirectory = ⟨.root, (partsFrom workingDirectory text).foldl climb []⟩ := by
    rw [absolute, ofText, start, componentsPieces, resolveMoving, partsFrom, List.foldl_append, climbNames named,
      List.nil_append]
  rw [resolvesIff, names, Path.mk.injEq, eq_comm (a := Anchor.root), eq_self, true_and, eq_comm]

theorem piecesNoSlash {text : String} (inside : part ∈ pieces text) : '/' ∉ part.toList := by
  obtain ⟨piece, among, rfl⟩ := List.mem_map.mp inside
  rw [String.toList_ofList]
  intro slash
  cases Text.splitPieceClean among slash

theorem entryNames {workingDirectory : List String} (working : ∀ part ∈ workingDirectory, EntryName part)
    {text : String} (clean : ∀ part ∈ (ofText text).parts, '\x00' ∉ part.toList)
    (resolves : Resolves (partsFrom workingDirectory text) names) : ∀ part ∈ names, EntryName part := by
  intro part inside
  have down := resolvesNames resolves part inside
  rcases List.mem_append.mp ((resolvesSublist resolves).subset inside) with above | among
  · refine working part ?_
    unfold origin at above
    split at above
    · cases above
    · exact above
  · have kept : part ∈ (ofText text).parts := by
      rw [ofText, componentsPieces]
      exact List.mem_filter.mpr ⟨among, by simp [down.1]⟩
    exact ⟨down, piecesNoSlash among, clean part kept⟩

def rooted (names : List String) : String :=
  "/" ++ "/".intercalate names

theorem rootedLetters (names : List String) : (rooted names).toList = '/' :: ("/".intercalate names).toList := by
  rw [rooted, String.toList_append]
  rfl

theorem textRooted (names : List String) : text ⟨.root, names⟩ = rooted names :=
  rfl

theorem splitName (entry : EntryName part) : Text.split (· == '/') part.toList = [part.toList] := by
  refine Text.splitClean fun c inside => beq_eq_false_iff_ne.mpr ?_
  rintro rfl
  exact entry.noSlash inside

theorem splitJoined {first : String} {rest : List String} (entries : ∀ part ∈ first :: rest, EntryName part) :
    Text.split (· == '/') ("/".intercalate (first :: rest)).toList = (first :: rest).map String.toList := by
  induction rest generalizing first with
  | nil =>
    rw [String.intercalate_singleton, splitName (entries first List.mem_cons_self)]
    rfl
  | cons next others ih =>
    obtain ⟨here, after⟩ := List.forall_mem_cons.mp entries
    have joined : ("/".intercalate (first :: next :: others)).toList =
        first.toList ++ '/' :: ("/".intercalate (next :: others)).toList := by
      rw [String.intercalate_cons_cons, String.toList_append, String.toList_append, List.append_assoc]
      rfl
    rw [joined, Text.splitAppend rfl, splitName here, ih after]
    rfl

theorem piecesRooted (entries : ∀ part ∈ names, EntryName part) :
    pieces (rooted names) = "" :: if names = [] then [""] else names := by
  rw [pieces, rootedLetters, Text.splitAtSeparator rfl]
  cases names with
  | nil => rfl
  | cons first rest =>
    rw [splitJoined entries, if_neg (List.cons_ne_nil first rest), List.map_cons, List.map_map]
    simp [Function.comp_def]

theorem anchorRooted (entries : ∀ part ∈ names, EntryName part) : anchorOf (rooted names).toList = .root := by
  rw [rootedLetters]
  cases names with
  | nil => rfl
  | cons first rest =>
    have cut := splitJoined entries
    cases joined : ("/".intercalate (first :: rest)).toList with
    | nil => rfl
    | cons c more =>
      by_cases slash : c = '/'
      · rw [joined, slash, Text.splitAtSeparator rfl, List.map_cons] at cut
        have nothing : first = "" := String.toList_eq_nil_iff.mp (List.cons.inj cut).1.symm
        exact absurd (.inl nothing) (entries first List.mem_cons_self).names.1
      · unfold anchorOf
        split <;> simp_all

theorem ofTextRooted (entries : ∀ part ∈ names, EntryName part) : ofText (rooted names) = ⟨.root, names⟩ := by
  have kept : (pieces (rooted names)).filter (fun part => !decide (Idle part)) = names := by
    rw [piecesRooted entries]
    split
    · rename_i none
      rw [none]
      decide
    · exact movingNames fun part inside => (entries part inside).names
  rw [ofText, componentsPieces, anchorRooted entries, kept]

theorem absoluteRooted (entries : ∀ part ∈ names, EntryName part) (workingDirectory : List String) :
    (ofText (rooted names)).absolute workingDirectory = ⟨.root, names⟩ := by
  have all : ∀ part ∈ names, Names part := fun part inside => (entries part inside).names
  have whole := resolveMoving [] names
  rw [movingNames all, climbNames all, List.nil_append] at whole
  rw [ofTextRooted entries, absolute, if_neg nofun, whole]

end UtilityLayout.Path
