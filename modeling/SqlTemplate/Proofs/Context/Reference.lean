import SqlTemplate.Context.Layer

/-!
# References to loop variables

A content refers to a loop variable if it starts with its name, after spaces, and the name ends
there. Renaming puts the name of the iteration in the place of the spaces and the name, and keeps
the rest.

**Theorem (`iterationName_inj`).** The name of a variable in an iteration tells the variable and the
iteration.
-/

namespace SqlTemplate.Renaming

open Text

variable {name name' : String} {n n' : Nat} {content rest : List Char}

theorem toList_iterationName (name : String) (n : Nat) :
    (iterationName name n).toList =
      "__frch_".toList ++ name.toList ++ '_' :: Nat.toDigits 10 n := by
  simp [iterationName]

theorem isDigit_of_mem_toDigits {c : Char} (h : c ∈ Nat.toDigits 10 n) : c.isDigit :=
  Nat.isDigit_of_mem_toDigits (by decide) (by decide) h

/-- The digits are what follows the last underscore. -/
theorem takeWhile_reverse_iterationName (name : String) (n : Nat) :
    (iterationName name n).toList.reverse.takeWhile (· != '_') = (Nat.toDigits 10 n).reverse := by
  rw [toList_iterationName, List.reverse_append, List.reverse_cons, List.append_assoc,
    List.takeWhile_append_of_pos]
  · simp
  · intro c hc
    have := isDigit_of_mem_toDigits (List.mem_reverse.1 hc)
    rw [bne_iff_ne]
    rintro rfl
    cases this

/-- **The name in an iteration tells the variable and the iteration.** -/
theorem iterationName_inj (h : iterationName name n = iterationName name' n') :
    name = name' ∧ n = n' := by
  have hdigits : Nat.toDigits 10 n = Nat.toDigits 10 n' := by
    have := takeWhile_reverse_iterationName name n
    rw [h, takeWhile_reverse_iterationName] at this
    exact (List.reverse_inj.1 this).symm
  have hlists := congrArg String.toList h
  rw [toList_iterationName, toList_iterationName, hdigits, List.append_cancel_right_eq,
    List.append_cancel_left_eq] at hlists
  refine ⟨String.toList_inj.1 hlists, ?_⟩
  rw [← Nat.ofDigitChars_ten_toDigits (n := n), hdigits, Nat.ofDigitChars_ten_toDigits]

theorem afterReference?_eq_some :
    afterReference? name content = some rest ↔
      trimStart content = name.toList ++ rest ∧ endsReference rest := by
  rw [← after?_eq_some_iff, afterReference?]
  cases after? name.toList (trimStart content) with
  | none => simp
  | some after =>
    dsimp only
    split
    · next hends =>
      refine ⟨fun h => ⟨h, ?_⟩, fun h => h.1⟩
      rwa [← Option.some.inj h]
    · next hends =>
      refine ⟨nofun, fun h => absurd ?_ hends⟩
      rw [Option.some.inj h.1]
      exact h.2

/-- Renaming keeps a content, or puts the name of the iteration in the place of a reference. -/
theorem content_cases (r : Renaming) (content : String) :
    ((∀ name ∈ r.names, afterReference? name content.toList = none) ∧
        r.content content = content) ∨
      ∃ name ∈ r.names, ∃ rest, afterReference? name content.toList = some rest ∧
        r.content content = iterationName name r.number ++ String.ofList rest := by
  rw [Renaming.content]
  cases h : r.names.findSome? fun name =>
      (afterReference? name content.toList).map fun rest =>
        iterationName name r.number ++ String.ofList rest with
  | none =>
    rw [List.findSome?_eq_none_iff] at h
    exact .inl ⟨fun name hname => Option.map_eq_none_iff.1 (h name hname), rfl⟩
  | some renamed =>
    obtain ⟨name, hname, hrenamed⟩ := List.exists_of_findSome?_eq_some h
    obtain ⟨rest, hrest, rfl⟩ := Option.map_eq_some_iff.1 hrenamed
    exact .inr ⟨name, hname, rest, hrest, rfl⟩

/-! ## What renaming keeps -/

theorem eq_append_of_afterReference? (h : afterReference? name content = some rest) :
    content = content.takeWhile isSpace ++ (name.toList ++ rest) := by
  rw [← (afterReference?_eq_some.1 h).1, trimStart, List.takeWhile_append_dropWhile]

/-- Renaming adds and removes nothing but spaces and the characters around a name. -/
theorem count_content (r : Renaming) (content : String) {c : Char} (hspace : isSpace c = false)
    (hdigit : c.isDigit = false) (hmark : c ∉ "__frch_".toList) :
    (r.content content).toList.count c = content.toList.count c := by
  rcases r.content_cases content with ⟨-, h⟩ | ⟨name, -, rest, hrest, h⟩
  · rw [h]
  · have hspaces : c ∉ content.toList.takeWhile isSpace := by
      intro hmem
      rw [List.all_eq_true.1 List.all_takeWhile c hmem] at hspace
      cases hspace
    have hdigits : c ∉ '_' :: Nat.toDigits 10 r.number := by
      rw [List.mem_cons, not_or]
      refine ⟨fun heq => hmark (heq ▸ by decide), fun hmem => ?_⟩
      rw [isDigit_of_mem_toDigits hmem] at hdigit
      cases hdigit
    have hcount := congrArg (List.count c) (eq_append_of_afterReference? hrest)
    rw [h, String.toList_append, toList_iterationName, String.toList_ofList (l := rest)]
    rw [List.count_append, List.count_append, List.count_eq_zero_of_not_mem hspaces] at hcount
    rw [List.count_append, List.count_append, List.count_append,
      List.count_eq_zero_of_not_mem hdigits, List.count_eq_zero_of_not_mem hmark]
    omega

theorem mem_content_iff (r : Renaming) (content : String) {c : Char} (hspace : isSpace c = false)
    (hdigit : c.isDigit = false) (hmark : c ∉ "__frch_".toList) :
    c ∈ (r.content content).toList ↔ c ∈ content.toList := by
  rw [← List.count_pos_iff, count_content r content hspace hdigit hmark, List.count_pos_iff]

/-- Renaming puts no backslash at the end. -/
theorem getLast?_content (r : Renaming) {content : String}
    (h : content.toList.getLast? ≠ some '\\') :
    (r.content content).toList.getLast? ≠ some '\\' := by
  rcases r.content_cases content with ⟨-, heq⟩ | ⟨name, -, rest, hrest, heq⟩
  · rwa [heq]
  · rw [heq, String.toList_append, String.toList_ofList (l := rest), List.getLast?_append]
    rw [eq_append_of_afterReference? hrest, List.getLast?_append, List.getLast?_append] at h
    cases hlast : rest.getLast? with
    | some c => rwa [hlast] at h
    | none =>
      rw [Option.none_or, toList_iterationName, List.getLast?_append, List.getLast?_cons,
        Option.some_or]
      cases hdigits : (Nat.toDigits 10 r.number).getLast? with
      | none => simp
      | some d =>
        have := isDigit_of_mem_toDigits (List.mem_of_getLast? hdigits)
        rintro ⟨rfl⟩
        cases this

end SqlTemplate.Renaming
