import SqlTemplate.Proofs.Placeholder.Pieces

/-!
# Entries that are put one after another

The entries of a placeholder are an ordered table. Putting a text under a key changes the text that
the key has, or adds the key at the end.

**Theorem (`tableOf_putAll`).** Putting entries one after another gives each key once, where it came
first, with the text that came last.
-/

namespace SqlTemplate.Placeholder

variable {key value k : String} {entries more : List (String × String)}

/-! ## One entry -/

theorem map_fst_put (key value : String) (entries : List (String × String)) :
    (put key value entries).map Prod.fst =
      if key ∈ entries.map Prod.fst then entries.map Prod.fst
      else entries.map Prod.fst ++ [key] := by
  induction entries with
  | nil => simp [put]
  | cons first rest ih =>
    rw [put, List.map_cons]
    by_cases hkey : first.1 = key
    · simp [hkey]
    · rw [if_neg hkey, List.map_cons, ih]
      by_cases hmem : key ∈ rest.map Prod.fst
      · rw [if_pos hmem, if_pos (List.mem_cons_of_mem _ hmem)]
      · rw [if_neg hmem, if_neg (by simp [Ne.symm hkey, hmem]), List.cons_append]

theorem keys_put (key value k : String) (entries : List (String × String)) :
    k ∈ (put key value entries).map Prod.fst ↔ k = key ∨ k ∈ entries.map Prod.fst := by
  rw [map_fst_put]
  split
  · next hkey => exact ⟨.inr, fun h => h.elim (fun heq => heq ▸ hkey) id⟩
  · rw [List.mem_append, List.mem_singleton, or_comm]

theorem put_of_not_mem (h : key ∉ entries.map Prod.fst) (value : String) :
    put key value entries = entries ++ [(key, value)] := by
  induction entries with
  | nil => rfl
  | cons first rest ih =>
    rw [List.map_cons, List.mem_cons, not_or] at h
    rw [put, if_neg (Ne.symm h.1), ih h.2, List.cons_append]

theorem lookup_cons_eq (key value k : String) (entries : List (String × String)) :
    List.lookup k ((key, value) :: entries) =
      if k = key then some value else entries.lookup k := by
  rw [List.lookup_cons]
  by_cases hk : k = key
  · rw [beq_iff_eq.2 hk, if_pos hk]
  · rw [beq_eq_false_iff_ne.2 hk, if_neg hk]

/-- A key has the text that was put last. -/
theorem lookup_put (key value k : String) (entries : List (String × String)) :
    (put key value entries).lookup k = if k = key then some value else entries.lookup k := by
  induction entries with
  | nil => exact lookup_cons_eq key value k []
  | cons first rest ih =>
    obtain ⟨first, text⟩ := first
    rw [put, lookup_cons_eq]
    by_cases hkey : first = key
    · rw [if_pos hkey, lookup_cons_eq, hkey]
      split <;> rfl
    · rw [if_neg hkey, lookup_cons_eq, ih]
      by_cases hk : k = first
      · rw [if_pos hk, if_neg (hk ▸ hkey), if_pos hk]
      · rw [if_neg hk, if_neg hk]

theorem nodup_put (h : (entries.map Prod.fst).Nodup) (key value : String) :
    ((put key value entries).map Prod.fst).Nodup := by
  rw [map_fst_put]
  split
  · exact h
  · next hkey =>
    refine List.nodup_append.2 ⟨h, List.pairwise_singleton _ key, fun k hk k' hk' heq => hkey ?_⟩
    rw [← List.mem_singleton.1 hk', ← heq]
    exact hk

/-! ## Entries one after another -/

theorem nodup_putAll (h : (entries.map Prod.fst).Nodup) (more : List (String × String)) :
    ((putAll entries more).map Prod.fst).Nodup := by
  induction more generalizing entries with
  | nil => exact h
  | cons entry rest ih => exact ih (nodup_put h entry.1 entry.2)

theorem keys_putAll (entries more : List (String × String)) (k : String) :
    k ∈ (putAll entries more).map Prod.fst ↔
      k ∈ entries.map Prod.fst ∨ k ∈ more.map Prod.fst := by
  induction more generalizing entries with
  | nil => simp [putAll]
  | cons entry rest ih =>
    change k ∈ (putAll (put entry.1 entry.2 entries) rest).map Prod.fst ↔ _
    rw [ih, keys_put, List.map_cons, List.mem_cons, or_left_comm, or_assoc]

/-- Entries under other keys are put after the first one. -/
theorem putAll_cons (h : ∀ entry ∈ more, entry.1 ≠ key) (value : String)
    (entries : List (String × String)) :
    putAll ((key, value) :: entries) more = (key, value) :: putAll entries more := by
  induction more generalizing entries with
  | nil => rfl
  | cons entry rest ih =>
    obtain ⟨hentry, hrest⟩ := List.forall_mem_cons.1 h
    have hput : put entry.1 entry.2 ((key, value) :: entries) =
        (key, value) :: put entry.1 entry.2 entries := if_neg hentry.symm
    change putAll (put entry.1 entry.2 ((key, value) :: entries)) rest = _
    rw [hput]
    exact ih hrest _

theorem lookup_putAll (k : String) (entries more : List (String × String)) :
    (putAll entries more).lookup k = (more.reverse.lookup k).or (entries.lookup k) := by
  induction more generalizing entries with
  | nil => rfl
  | cons entry rest ih =>
    change (putAll (put entry.1 entry.2 entries) rest).lookup k = _
    rw [ih, lookup_put, List.reverse_cons, List.lookup_append, Option.or_assoc]
    rw [lookup_cons_eq entry.1 entry.2, List.lookup_nil]
    split <;> rfl

/-- Entries under keys of their own are put at the end. -/
theorem putAll_of_nodup (h : ((entries ++ more).map Prod.fst).Nodup) :
    putAll entries more = entries ++ more := by
  induction more generalizing entries with
  | nil => exact (List.append_nil entries).symm
  | cons entry rest ih =>
    have hkey : entry.1 ∉ entries.map Prod.fst := by
      rw [List.map_append, List.nodup_append] at h
      exact fun hmem => h.2.2 _ hmem _ (List.mem_map_of_mem List.mem_cons_self) rfl
    change putAll (put entry.1 entry.2 entries) rest = _
    rw [put_of_not_mem hkey, ih (by simpa using h), List.append_assoc, List.singleton_append]

/-- Distinct keys stay as they are. -/
theorem eraseDups_of_nodup {keys : List String} (h : keys.Nodup) : keys.eraseDups = keys := by
  induction keys with
  | nil => rfl
  | cons key rest ih =>
    obtain ⟨hkey, hrest⟩ := List.nodup_cons.1 h
    rw [List.eraseDups_cons, List.filter_eq_self.2 fun k hk => ?_, ih hrest]
    rw [Bool.not_eq_true', beq_eq_false_iff_ne]
    rintro rfl
    exact hkey hk

/-- Keys stand where they came first. -/
theorem map_fst_putAll (h : (entries.map Prod.fst).Nodup) (more : List (String × String)) :
    (putAll entries more).map Prod.fst =
      (entries.map Prod.fst ++ more.map Prod.fst).eraseDups := by
  induction more generalizing entries with
  | nil => rw [List.map_nil, List.append_nil, eraseDups_of_nodup h]; rfl
  | cons entry rest ih =>
    change (putAll (put entry.1 entry.2 entries) rest).map Prod.fst = _
    rw [ih (nodup_put h entry.1 entry.2), map_fst_put, List.map_cons]
    split
    · next hkey =>
      rw [List.eraseDups_append, List.eraseDups_append, List.cons_removeAll,
        if_neg (by simpa using hkey)]
    · rw [List.append_assoc, List.singleton_append]

/-- The table of entries that are put one after another: each key once, in the place where it came
first, with the text that came last. -/
structure TableOf (written entries : List (String × String)) : Prop where
  keys : entries.map Prod.fst = (written.map Prod.fst).eraseDups
  distinct : (entries.map Prod.fst).Nodup
  last : ∀ key, entries.lookup key = written.reverse.lookup key

/-- **Putting entries one after another gives their table.** -/
theorem tableOf_putAll (written : List (String × String)) : TableOf written (putAll [] written) :=
  have hnone : (([] : List (String × String)).map Prod.fst).Nodup := List.nodup_nil
  ⟨map_fst_putAll hnone written, nodup_putAll hnone written, fun key => by
    rw [lookup_putAll, List.lookup_nil, Option.or_none]⟩

end SqlTemplate.Placeholder
