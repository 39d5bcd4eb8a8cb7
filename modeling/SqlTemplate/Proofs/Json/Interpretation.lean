import Mathlib.Data.List.Nodup
import SqlTemplate.Json.Writer
import SqlTemplate.Proofs.Fallible

/-!
# Interpreting documents as JSON values

A document is interpreted part by part. The members of an object are interpreted in order
(`ofMembers?_eq_some_iff`) and then put into a table, so that the object has them in the order of
their keys: it has the keys of the document (`mem_keys_toMembers_ofList`), each once, and each of
its members was interpreted from one of the document (`exists_of_mem_toMembers_ofList`).

What has no nesting needs no room, and each array or object takes one level of it
(`isSome_array_iff`, `isSome_object_iff`).
-/

namespace SqlTemplate.Json

/-- A JSON value has the members of the document that it is interpreted from, in order. -/
theorem ofMembers?_eq_some_iff {room : Nat} {members : Members} {values : List (String × Json)} :
    ofMembers? room members = some values ↔
      List.Forall₂ (fun m v => m.1 = some v.1 ∧ ofDocument? room m.2 = some v.2)
        members values := by
  induction members generalizing values with
  | nil => simp [ofMembers?, eq_comm]
  | cons member rest ih =>
    obtain ⟨key, value⟩ := member
    rw [ofMembers?, List.forall₂_cons_left_iff]
    simp only [Option.bind_eq_bind, Option.bind_eq_some_iff, ih]
    constructor
    · rintro ⟨key, rfl, value, hvalue, rest, hrest, ⟨⟩⟩
      exact ⟨(key, value), rest, ⟨rfl, hvalue⟩, hrest, rfl⟩
    · rintro ⟨⟨key, value⟩, rest, ⟨rfl, hvalue⟩, hrest, rfl⟩
      exact ⟨key, rfl, value, hvalue, rest, hrest, rfl⟩

theorem keys_of_ofMembers? {room : Nat} {members : Members} {values : List (String × Json)}
    (h : ofMembers? room members = some values) :
    members.map Prod.fst = (values.map Prod.fst).map some := by
  have hforall := ofMembers?_eq_some_iff.1 h
  clear h
  induction hforall with
  | nil => rfl
  | cons hmember _ ih => rw [List.map_cons, hmember.1, ih, List.map_cons, List.map_cons]

theorem mem_toMembers_iff {members : List (String × Json)} {m : Option String × Document} :
    m ∈ toMembers members ↔ ∃ v ∈ members, m = (some v.1, v.2.toDocument) := by
  induction members with
  | nil => simp [toMembers]
  | cons member rest ih => simp [toMembers, ih]

theorem keys_toMembers (members : List (String × Json)) :
    (toMembers members).map Prod.fst = (Keyed.keys members).map some := by
  induction members with
  | nil => rfl
  | cons member rest ih => exact congrArg (some member.1 :: ·) ih

section interpreted

variable {room : Nat} {j : Json}

theorem exists_of_array {items : List Document} (h : ofDocument? room (.array items) = some j) :
    ∃ values, ofItems? (room - 1) items = some values ∧ j = .array values := by
  rw [ofDocument?] at h
  split at h
  · cases h
  · obtain ⟨values, hvalues, rfl⟩ := Option.map_eq_some_iff.1 h
    exact ⟨values, hvalues, rfl⟩

theorem exists_of_object {members : Members} (h : ofDocument? room (.object members) = some j) :
    ∃ values, ofMembers? (room - 1) members = some values ∧ j = .object (Keyed.ofList values) := by
  rw [ofDocument?] at h
  split at h
  · cases h
  · obtain ⟨values, hvalues, rfl⟩ := Option.map_eq_some_iff.1 h
    exact ⟨values, hvalues, rfl⟩

theorem exists_of_ofItems?_cons {item : Document} {rest : List Document} {values : List Json}
    (h : ofItems? room (item :: rest) = some values) :
    ∃ first others, ofDocument? room item = some first ∧ ofItems? room rest = some others ∧
      values = first :: others := by
  rw [ofItems?] at h
  simp only [Option.bind_eq_bind, Option.bind_eq_some_iff] at h
  obtain ⟨first, hfirst, others, hothers, ⟨⟩⟩ := h
  exact ⟨first, others, hfirst, hothers, rfl⟩

end interpreted

section room

variable {room : Nat}

theorem isSome_array_iff {items : List Document} :
    (ofDocument? room (.array items)).isSome ↔ 0 < room ∧ (ofItems? (room - 1) items).isSome := by
  rw [ofDocument?]
  split
  · next h => simp [h]
  · next h => simp [Nat.pos_iff_ne_zero, h]

theorem isSome_object_iff {members : Members} :
    (ofDocument? room (.object members)).isSome ↔
      0 < room ∧ (ofMembers? (room - 1) members).isSome := by
  rw [ofDocument?]
  split
  · next h => simp [h]
  · next h => simp [Nat.pos_iff_ne_zero, h]

theorem isSome_ofItems?_cons_iff {item : Document} {rest : List Document} :
    (ofItems? room (item :: rest)).isSome ↔
      (ofDocument? room item).isSome ∧ (ofItems? room rest).isSome := by
  rw [ofItems?]
  cases ofDocument? room item <;> cases ofItems? room rest <;> simp

theorem isSome_ofMembers?_iff {members : Members} :
    (ofMembers? room members).isSome ↔
      ∀ m ∈ members, m.1.isSome ∧ (ofDocument? room m.2).isSome := by
  induction members with
  | nil => simp [ofMembers?]
  | cons member rest ih =>
    obtain ⟨key, value⟩ := member
    rw [List.forall_mem_cons, ← ih, ofMembers?]
    cases key <;> cases ofDocument? room value <;> cases ofMembers? room rest <;> simp

end room

section table

variable {room : Nat} {members : Members} {values : List (String × Json)}

/-- An object has the keys of the members that it is interpreted from. -/
theorem mem_keys_toMembers_ofList (h : ofMembers? room members = some values) {key : String} :
    some key ∈ (toMembers (Keyed.ofList values)).map Prod.fst ↔
      some key ∈ members.map Prod.fst := by
  have hinj : Function.Injective (some : String → Option String) := fun _ _ => Option.some.inj
  rw [keys_toMembers, keys_of_ofMembers? h, List.mem_map_of_injective hinj,
    List.mem_map_of_injective hinj, Keyed.mem_keys_ofList]

theorem nodup_keys_toMembers_ofList (values : List (String × Json)) :
    ((toMembers (Keyed.ofList values)).map Prod.fst).Nodup := by
  rw [keys_toMembers]
  exact (List.nodup_map_iff fun _ _ => Option.some.inj).2
    (Keyed.nodup_keys_of_ascending (Keyed.ascending_ofList values))

/-- Each member of an object is interpreted from one under the same key. -/
theorem exists_of_mem_toMembers_ofList (h : ofMembers? room members = some values)
    {m : Option String × Document} (hm : m ∈ toMembers (Keyed.ofList values)) :
    ∃ key document value, m = (some key, value.toDocument) ∧ (some key, document) ∈ members ∧
      ofDocument? room document = some value := by
  obtain ⟨⟨key, value⟩, hvalue, rfl⟩ := mem_toMembers_iff.1 hm
  obtain ⟨i, hi⟩ := List.getElem?_of_mem (Keyed.mem_of_mem_ofList hvalue)
  obtain ⟨⟨_, document⟩, hmember, rfl, hdocument⟩ :=
    exists_of_forall₂ (ofMembers?_eq_some_iff.1 h).flip hi
  exact ⟨key, document, value, rfl, List.mem_of_getElem? hmember, hdocument⟩

end table

end SqlTemplate.Json
