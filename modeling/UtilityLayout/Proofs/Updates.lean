import UtilityLayout.Table

/-! Tables after updates. An update keeps the keys that are there, in their order, and the new ones follow in the order
of their first use. Laying tables over one another is associative, and one entry more can be put in last or with the
last table. -/
namespace UtilityLayout

theorem eraseDupsNodup [DecidableEq α] {l : List α} (distinct : l.Nodup) : l.eraseDups = l := by
  induction l with
  | nil => rfl
  | cons a rest ih =>
    obtain ⟨absent, distinct⟩ := List.nodup_cons.mp distinct
    have kept : rest.filter (fun b => !b == a) = rest := by
      rw [List.filter_eq_self]
      intro b member
      have differs : b ≠ a := fun same => absent (same ▸ member)
      simpa using differs
    rw [List.eraseDups_cons, kept, ih distinct]

theorem eraseDupsConcat [DecidableEq α] (l : List α) (a : α) :
    (l ++ [a]).eraseDups = if a ∈ l then l.eraseDups else l.eraseDups ++ [a] := by
  rw [List.eraseDups_append]
  by_cases inside : a ∈ l
  · simp [List.removeAll, inside]
  · simp [List.removeAll, inside, List.eraseDups_cons]

theorem eraseDupsOrder [DecidableEq α] (l : List α) : l.eraseDups.Pairwise fun a b => l.idxOf a < l.idxOf b := by
  -- One element more at the end leaves every place alone that there is.
  have reversed (back : List α) :
      back.reverse.eraseDups.Pairwise fun a b => back.reverse.idxOf a < back.reverse.idxOf b := by
    induction back with
    | nil => exact List.Pairwise.nil
    | cons a rest ih =>
      rw [List.reverse_cons]
      generalize rest.reverse = l at ih ⊢
      have place {b : α} (inside : b ∈ l) : (l ++ [a]).idxOf b = l.idxOf b := by
        rw [List.idxOf_append, if_pos inside]
      have kept : l.eraseDups.Pairwise fun b c => (l ++ [a]).idxOf b < (l ++ [a]).idxOf c := by
        refine ih.imp_of_mem fun first second before => ?_
        rwa [place (List.mem_eraseDups.mp first), place (List.mem_eraseDups.mp second)]
      rw [eraseDupsConcat]
      split
      · exact kept
      · rename_i new
        refine List.pairwise_append.mpr ⟨kept, List.pairwise_singleton _ _, fun b inside c last => ?_⟩
        have inside := List.mem_eraseDups.mp inside
        rw [List.mem_singleton.mp last, place inside, List.idxOf_append, if_neg new]
        exact Nat.lt_of_lt_of_le (List.idxOf_lt_length_of_mem inside) (Nat.le_add_left _ _)
  have whole := reversed l.reverse
  rwa [List.reverse_reverse] at whole

theorem eraseDupsAfter [DecidableEq α] {front : List α} (distinct : front.Nodup) (l : List α) :
    (front ++ l).eraseDups = front ++ (l.filter (· ∉ front)).eraseDups := by
  have new : l.removeAll front = l.filter (· ∉ front) := by simp [List.removeAll]
  rw [List.eraseDups_append, eraseDupsNodup distinct, new]

theorem eraseDupsFilter [DecidableEq α] (p : α → Bool) : ∀ l : List α, (l.filter p).eraseDups = l.eraseDups.filter p
  | [] => rfl
  | a :: rest => by
    have fewer : (rest.filter fun b => !b == a).length < (a :: rest).length :=
      Nat.lt_succ_of_le (List.length_filter_le _ rest)
    have ih := eraseDupsFilter p (rest.filter fun b => !b == a)
    cases kept : p a with
    | true =>
      rw [List.filter_cons_of_pos kept, List.eraseDups_cons, List.eraseDups_cons, List.filter_cons_of_pos kept, ← ih,
        List.filter_filter, List.filter_filter]
      simp only [Bool.and_comm]
    | false =>
      have gone : ¬p a = true := by simp [kept]
      have apart : (rest.filter fun b => !b == a).filter p = rest.filter p := by
        rw [List.filter_filter]
        refine List.filter_congr fun b _ => ?_
        by_cases same : b = a
        · simp [same, kept]
        · simp [same]
      rw [List.filter_cons_of_neg gone, List.eraseDups_cons, List.filter_cons_of_neg gone, ← ih, apart]
  termination_by l => l.length
  decreasing_by exact fewer

theorem eraseDupsParts [DecidableEq α] {front front' back back' : List α} (first : front.eraseDups = front'.eraseDups)
    (second : back.eraseDups = back'.eraseDups) : (front ++ back).eraseDups = (front' ++ back').eraseDups := by
  have same : (fun b => !front.contains b) = fun b => !front'.contains b := by
    funext b
    have inside : b ∈ front ↔ b ∈ front' := by rw [← List.mem_eraseDups, first, List.mem_eraseDups]
    simp [inside]
  have new (front back : List α) :
      (back.removeAll front).eraseDups = back.eraseDups.filter fun b => !front.contains b :=
    eraseDupsFilter _ back
  rw [List.eraseDups_append, List.eraseDups_append, new, new, first, second, same]

namespace Table
variable {κ α : Type} [DecidableEq κ]

theorem extFind {s t : Table κ α} (keys : s.keys = t.keys) (found : ∀ key, s.find? key = t.find? key) : s = t := by
  apply entriesExt
  rw [entriesOfFind s, entriesOfFind t, keys]
  simp only [found]

theorem findNone (t : Table κ α) {key : κ} : t.find? key = none ↔ key ∉ t.keys := by
  rw [Option.eq_none_iff_forall_ne_some]
  constructor
  · intro missing inside
    obtain ⟨⟨_, value⟩, member, rfl⟩ := List.mem_map.mp inside
    exact missing value (t.findMember member)
  · intro absent value found
    exact absent (List.mem_map.mpr ⟨_, t.memberOfFind found, rfl⟩)

theorem permOfFind {s t : Table κ α} (found : ∀ key, s.find? key = t.find? key) : s.entries.Perm t.entries := by
  have distinct (t : Table κ α) : t.entries.Nodup :=
    (List.pairwise_map.mp t.distinct).imp fun apart same => apart (congrArg Prod.fst same)
  rw [List.perm_ext_iff_of_nodup (distinct s) (distinct t)]
  intro entry
  constructor
  · intro inside
    exact t.memberOfFind (found entry.1 ▸ s.findMember inside)
  · intro inside
    exact s.memberOfFind (found entry.1 ▸ t.findMember inside)

theorem keysUpdate (t : Table κ α) (entries : List (κ × α)) :
    (t.update entries).keys = (t.keys ++ entries.map Prod.fst).eraseDups := by
  induction entries generalizing t with
  | nil =>
    rw [List.map_nil, List.append_nil]
    exact (eraseDupsNodup t.distinct).symm
  | cons entry rest ih =>
    have next : t.update (entry :: rest) = (t.insert entry.1 entry.2).update rest := rfl
    rw [next, ih, insertKeys, List.map_cons]
    split
    · rename_i inside
      rw [List.eraseDups_append, List.eraseDups_append]
      simp [List.removeAll, inside]
    · rw [List.append_assoc, List.singleton_append]

theorem keysOverlay (s t : Table κ α) :
    (s.update t.entries).keys = s.keys ++ t.keys.filter (· ∉ s.keys) := by
  calc (s.update t.entries).keys
      = (s.keys ++ t.keys).eraseDups := keysUpdate s t.entries
    _ = s.keys ++ (t.keys.filter (· ∉ s.keys)).eraseDups := eraseDupsAfter s.distinct t.keys
    _ = s.keys ++ t.keys.filter (· ∉ s.keys) := congrArg _ (eraseDupsNodup (t.distinct.filter _))

theorem lastEntry (t : Table κ α) (key : κ) :
    (t.entries.filter fun entry => entry.1 = key).getLast?.map Prod.snd = t.find? key := by
  obtain ⟨entries, distinct⟩ := t
  simp only [find?]
  induction entries with
  | nil => rfl
  | cons entry rest ih =>
    obtain ⟨found, value⟩ := entry
    obtain ⟨absent, others⟩ := List.nodup_cons.mp distinct
    by_cases here : found = key
    · subst here
      have none : (rest.filter fun entry => entry.1 = found) = [] := by
        rw [List.filter_eq_nil_iff]
        intro entry inside same
        exact absent (List.mem_map.mpr ⟨entry, inside, by simpa using same⟩)
      rw [List.filter_cons_of_pos (by simp), none]
      simp
    · have differs : (key == found) = false := by simpa using Ne.symm here
      rw [List.filter_cons_of_neg (by simpa using here), ih others, List.lookup_cons, differs]

theorem findOverlay (s t : Table κ α) (key : κ) :
    (s.update t.entries).find? key = (t.find? key).or (s.find? key) := by
  rw [findUpdate, lastEntry]

theorem updateSame {base table : Table κ α} : base.update table.entries = table ↔ base.keys <+: table.keys := by
  constructor
  · intro same
    rw [← same, keysOverlay]
    exact List.prefix_append _ _
  · intro front
    obtain ⟨rest, keys⟩ := id front
    have distinct : (base.keys ++ rest).Nodup := keys ▸ table.distinct
    have new : table.keys.filter (· ∉ base.keys) = rest := by
      rw [← keys, List.filter_append, List.filter_eq_nil_iff.mpr (by simp), List.nil_append, List.filter_eq_self]
      intro key inside
      exact decide_eq_true fun old => (List.nodup_append.mp distinct).2.2 key old key inside rfl
    apply extFind
    · rw [keysOverlay, new, keys]
    · intro key
      rw [findOverlay]
      cases own : table.find? key with
      | some value => rfl
      | none =>
        have absent := mt (front.subset ·) ((findNone table).mp own)
        rw [Option.none_or, (findNone base).mpr absent]

theorem updateInsert (s t : Table κ α) (key : κ) (value : α) :
    s.update (t.insert key value).entries = (s.update t.entries).insert key value := by
  apply extFind
  · have upper : ∀ entries : Table κ α, entries.entries.map Prod.fst = entries.keys := fun _ => rfl
    rw [insertKeys, keysUpdate, keysUpdate, upper, upper, insertKeys]
    by_cases inside : key ∈ t.keys
    · rw [if_pos inside, if_pos (List.mem_eraseDups.mpr (List.mem_append_right _ inside))]
    · rw [if_neg inside, ← List.append_assoc, eraseDupsConcat]
      simp only [List.mem_eraseDups]
  · intro other
    rw [findInsert, findOverlay, findOverlay, findInsert]
    split <;> rfl

theorem updateUpdate (s t : Table κ α) (entries : List (κ × α)) :
    s.update (t.update entries).entries = (s.update t.entries).update entries := by
  induction entries generalizing t with
  | nil => rfl
  | cons entry rest ih =>
    calc s.update (t.update (entry :: rest)).entries
        = s.update ((t.insert entry.1 entry.2).update rest).entries := rfl
      _ = (s.update (t.insert entry.1 entry.2).entries).update rest := ih _
      _ = ((s.update t.entries).insert entry.1 entry.2).update rest := by rw [updateInsert]

theorem emptyUpdate (t : Table κ α) : (∅ : Table κ α).update t.entries = t := by
  apply extFind
  · rw [keysOverlay]
    exact List.filter_eq_self.mpr fun key _ => by simp [keys, EmptyCollection.emptyCollection, empty]
  · intro key
    rw [findOverlay]
    exact Option.or_none

end Table
end UtilityLayout
