/-!
# Entries in the order of their keys

A table from texts to values is a list of entries with strictly ascending keys, ordered by code
point. `insert` keeps that order and replaces the value of a key that is already there, so a
table built from any list of entries holds, for each key, the value that came last.

`get?_insert` and `get?_erase` say what a changed table holds; `ascending_ofList` and the lemmas
before it say that the order is kept. A table is built from the keys and entries it is given
(`mem_of_mem_ofList`, `mem_keys_ofList`), and from entries in order as they stand
(`ofList_of_ascending`).
-/

namespace SqlTemplate

/-- Entries of a table, in ascending order of their keys. -/
abbrev Keyed (α : Type) := List (String × α)

namespace Keyed

variable {α : Type}

/-- The value of a key. -/
def get? (key : String) : Keyed α → Option α
  | [] => none
  | (k, v) :: rest => if k = key then some v else get? key rest

/-- Whether a table has a key. -/
def has (key : String) (table : Keyed α) : Bool := (get? key table).isSome

/-- Gives a key a value, in the place of the value it had. -/
def insert (key : String) (value : α) : Keyed α → Keyed α
  | [] => [(key, value)]
  | (k, v) :: rest =>
    if k = key then (key, value) :: rest
    else if key < k then (key, value) :: (k, v) :: rest
    else (k, v) :: insert key value rest

/-- Removes a key. -/
def erase (key : String) : Keyed α → Keyed α
  | [] => []
  | (k, v) :: rest => if k = key then rest else (k, v) :: erase key rest

/-- The table of a list of entries; of several entries for a key the last one counts. -/
def ofList (entries : List (String × α)) : Keyed α :=
  entries.foldl (fun table entry => insert entry.1 entry.2 table) []

/-- The keys of a table. -/
def keys (table : Keyed α) : List String := table.map Prod.fst

/-- The entries of a table have strictly ascending keys. -/
def Ascending (table : Keyed α) : Prop := table.Pairwise fun a b => a.1 < b.1

/-! ## The order of the keys -/

theorem mem_of_mem_insert {key : String} {value : α} {table : Keyed α} {entry : String × α}
    (h : entry ∈ insert key value table) : entry = (key, value) ∨ entry ∈ table := by
  induction table with
  | nil => simpa [insert] using h
  | cons first rest ih => grind [insert]

theorem Ascending.insert {table : Keyed α} (h : Ascending table) (key : String) (value : α) :
    Ascending (Keyed.insert key value table) := by
  induction table with
  | nil => simp [Keyed.insert, Ascending]
  | cons first rest ih =>
    obtain ⟨hfirst, hrest⟩ := List.pairwise_cons.1 h
    simp only [Keyed.insert]
    split
    · next heq => exact List.pairwise_cons.2 ⟨heq ▸ hfirst, hrest⟩
    · next hne =>
      split
      · next hlt =>
        refine List.pairwise_cons.2 ⟨fun entry hentry => ?_, h⟩
        cases List.mem_cons.1 hentry with
        | inl heq => exact heq ▸ hlt
        | inr hmem => exact String.lt_trans hlt (hfirst entry hmem)
      · next hnlt =>
        refine List.pairwise_cons.2 ⟨fun entry hentry => ?_, ih hrest⟩
        cases mem_of_mem_insert hentry with
        | inl heq =>
          subst heq
          exact Std.lt_of_le_of_ne (String.not_lt.1 hnlt) hne
        | inr hmem => exact hfirst entry hmem

theorem ascending_ofList (entries : List (String × α)) : Ascending (ofList entries) := by
  suffices ∀ table : Keyed α, Ascending table →
      Ascending (entries.foldl (fun table entry => Keyed.insert entry.1 entry.2 table) table) from
    this [] List.Pairwise.nil
  induction entries with
  | nil => exact fun _ h => h
  | cons entry rest ih => exact fun table h => ih _ (h.insert entry.1 entry.2)

theorem insert_of_forall_lt {key : String} {table : Keyed α} (value : α)
    (h : ∀ entry ∈ table, entry.1 < key) : insert key value table = table ++ [(key, value)] := by
  induction table with
  | nil => rfl
  | cons first rest ih =>
    have hfirst := h first List.mem_cons_self
    have hne : first.1 ≠ key := fun heq => String.lt_irrefl _ (heq ▸ hfirst)
    rw [insert, if_neg hne, if_neg (String.lt_asymm hfirst),
      ih fun entry hentry => h entry (List.mem_cons_of_mem _ hentry)]
    rfl

/-- **Entries in ascending order are a table as they stand.** -/
theorem ofList_of_ascending {table : Keyed α} (h : Ascending table) : ofList table = table := by
  suffices ∀ before, Ascending (before ++ table) →
      table.foldl (fun table entry => insert entry.1 entry.2 table) before = before ++ table from
    this [] h
  clear h
  induction table with
  | nil => exact fun before _ => (List.append_nil before).symm
  | cons entry rest ih =>
    intro before h
    have hlast : ∀ e ∈ before, e.1 < entry.1 := fun e he =>
      (List.pairwise_append.1 h).2.2 e he entry List.mem_cons_self
    rw [List.foldl_cons, insert_of_forall_lt entry.2 hlast]
    have happend : before ++ [(entry.1, entry.2)] ++ rest = before ++ entry :: rest := by simp
    rw [ih _ (happend.symm ▸ h), happend]

theorem ascending_iff (table : Keyed α) : Ascending table ↔ (keys table).Pairwise (· < ·) :=
  List.pairwise_map.symm

theorem erase_sublist (key : String) (table : Keyed α) : (erase key table).Sublist table := by
  induction table with
  | nil => exact List.Sublist.slnil
  | cons first rest ih =>
    simp only [erase]
    split
    · exact List.sublist_cons_self ..
    · exact ih.cons_cons _

theorem Ascending.erase {table : Keyed α} (h : Ascending table) (key : String) :
    Ascending (Keyed.erase key table) := h.sublist (erase_sublist key table)

/-! ## What a table holds after a change -/

@[simp] theorem get?_nil (key : String) : get? key ([] : Keyed α) = none := rfl

theorem get?_insert (key name : String) (value : α) (table : Keyed α) :
    get? name (insert key value table) = if key = name then some value else get? name table := by
  induction table with
  | nil => by_cases h : key = name <;> simp [insert, get?, h]
  | cons entry rest ih => grind [insert, get?]

theorem get?_eq_none_of_lt {key : String} {table : Keyed α}
    (h : ∀ entry ∈ table, key < entry.1) : get? key table = none := by
  induction table with
  | nil => rfl
  | cons first rest ih =>
    have hne : first.1 ≠ key := fun heq => String.lt_irrefl _ (heq ▸ h first (by simp))
    simp [get?, hne, ih fun entry hentry => h entry (List.mem_cons_of_mem _ hentry)]

theorem get?_erase_of_ne {key name : String} (table : Keyed α) (h : key ≠ name) :
    get? name (erase key table) = get? name table := by
  induction table with
  | nil => rfl
  | cons first rest ih =>
    by_cases heq : first.1 = key
    · simp [erase, get?, heq, h]
    · simp [erase, get?, heq, ih]

theorem get?_erase {table : Keyed α} (h : Ascending table) (key name : String) :
    get? name (erase key table) = if key = name then none else get? name table := by
  split
  · next heq =>
    subst heq
    induction table with
    | nil => rfl
    | cons first rest ih =>
      obtain ⟨hfirst, hrest⟩ := List.pairwise_cons.1 h
      by_cases heq : first.1 = key
      · subst heq
        simp [erase, get?_eq_none_of_lt hfirst]
      · simp [erase, get?, heq, ih hrest]
  · next hne => exact get?_erase_of_ne table hne

/-! ## The keys of a table -/

theorem mem_of_get? {key : String} {value : α} {table : Keyed α}
    (h : get? key table = some value) : (key, value) ∈ table := by
  induction table with
  | nil => cases h
  | cons entry rest ih =>
    rw [get?] at h
    split at h
    · next heq =>
      cases h
      rw [← heq]
      exact List.mem_cons_self
    · exact List.mem_cons_of_mem entry (ih h)

theorem get?_eq_none_iff {key : String} {table : Keyed α} :
    get? key table = none ↔ key ∉ keys table := by
  induction table with
  | nil => simp [keys]
  | cons entry rest ih =>
    rw [keys, List.map_cons, List.mem_cons, not_or, ← keys, ← ih, get?]
    split
    · next heq => simp [heq]
    · next hne => simp [Ne.symm hne]

theorem mem_keys_of_insert {key name : String} {value : α} {table : Keyed α}
    (h : name ∈ keys (insert key value table)) : name = key ∨ name ∈ keys table := by
  obtain ⟨entry, hentry, rfl⟩ := List.mem_map.1 h
  rcases mem_of_mem_insert hentry with rfl | hentry
  · exact .inl rfl
  · exact .inr (List.mem_map_of_mem hentry)

theorem mem_keys_insert_iff {key name : String} {value : α} {table : Keyed α} :
    name ∈ keys (insert key value table) ↔ name = key ∨ name ∈ keys table := by
  refine ⟨mem_keys_of_insert, fun h => Classical.not_not.1 fun hnot => ?_⟩
  rw [← get?_eq_none_iff, get?_insert] at hnot
  split at hnot
  · cases hnot
  · next hne => exact h.elim (fun heq => hne heq.symm) (get?_eq_none_iff.1 hnot)

theorem mem_keys_of_erase {key name : String} {table : Keyed α}
    (h : name ∈ keys (erase key table)) : name ∈ keys table :=
  ((erase_sublist key table).map Prod.fst).mem h

theorem nodup_keys_of_ascending {table : Keyed α} (h : Ascending table) : (keys table).Nodup :=
  ((ascending_iff table).1 h).imp String.ne_of_lt

theorem mem_of_mem_ofList {entries : List (String × α)} {entry : String × α}
    (h : entry ∈ ofList entries) : entry ∈ entries := by
  suffices ∀ table : Keyed α,
      entry ∈ entries.foldl (fun table entry => insert entry.1 entry.2 table) table →
        entry ∈ entries ∨ entry ∈ table from
    (this [] h).resolve_right List.not_mem_nil
  clear h
  induction entries with
  | nil => exact fun table h => .inr h
  | cons first rest ih =>
    intro table h
    rcases ih _ h with h | h
    · exact .inl (List.mem_cons_of_mem _ h)
    · rcases mem_of_mem_insert h with rfl | h
      · exact .inl List.mem_cons_self
      · exact .inr h

/-- A table has the keys of the entries it is built from. -/
theorem mem_keys_ofList {entries : List (String × α)} {key : String} :
    key ∈ keys (ofList entries) ↔ key ∈ entries.map Prod.fst := by
  suffices ∀ table : Keyed α,
      key ∈ keys (entries.foldl (fun table entry => insert entry.1 entry.2 table) table) ↔
        key ∈ entries.map Prod.fst ∨ key ∈ keys table from
    (this []).trans (or_iff_left List.not_mem_nil)
  induction entries with
  | nil => exact fun table => (or_iff_right List.not_mem_nil).symm
  | cons first rest ih =>
    intro table
    rw [List.foldl_cons, ih, mem_keys_insert_iff, List.map_cons, List.mem_cons, ← or_assoc,
      or_comm (a := key ∈ rest.map Prod.fst)]

end Keyed

end SqlTemplate
