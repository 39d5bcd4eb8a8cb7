import SqlTemplate.Proofs.Placeholder.Parts

/-!
# Closing parentheses

A text that closes its own parentheses is built up from its characters, from smaller such texts put
after one another, or from one in parentheses. These are the texts that a placeholder can have for
an expression: the search for the closing parenthesis stops after such a text and nowhere else
(`closes_of_untilClosed`, `untilClosed_eq_none_iff`).
-/

namespace SqlTemplate.Placeholder

namespace Closes

variable {m n depth : Nat} {c : Char} {xs ys text : List Char}

theorem nil : Closes 0 [] :=
  ⟨rfl, fun before hbefore => by rw [List.prefix_nil.1 hbefore]; exact Nat.le_refl _⟩

/-- A text after a character closes what the character opens, and what is open before it. -/
theorem cons (h : Closes n text) (hc : [c].count ')' + n = [c].count '(' + depth) :
    Closes depth (c :: text) := by
  have hcount (d : Char) (xs : List Char) : (c :: xs).count d = [c].count d + xs.count d := by
    rw [← List.singleton_append, List.count_append]
  refine ⟨?_, fun before hbefore => ?_⟩
  · rw [hcount ')' text, hcount '(' text, h.count]
    omega
  · rcases List.prefix_cons_iff.1 hbefore with rfl | ⟨more, rfl, hmore⟩
    · simp
    · have hle := h.before more hmore
      rw [hcount ')' more, hcount '(' more]
      omega

theorem cons_close (h : Closes depth text) : Closes (depth + 1) (')' :: text) :=
  h.cons (by simp [Nat.add_comm])

theorem cons_open (h : Closes (depth + 1) text) : Closes depth ('(' :: text) :=
  h.cons (by simp [Nat.add_comm])

theorem cons_other (h : Closes depth text) (hclose : c ≠ ')') (hopen : c ≠ '(') :
    Closes depth (c :: text) :=
  h.cons (by simp [hclose, hopen])

/-- Texts that close parentheses close them together. -/
theorem append (hx : Closes m xs) (hy : Closes n ys) : Closes (m + n) (xs ++ ys) := by
  induction xs generalizing m with
  | nil =>
    have hm := hx.count
    simp only [List.count_nil, Nat.zero_add] at hm
    rwa [← hm, Nat.zero_add, List.nil_append]
  | cons c xs ih =>
    by_cases hclose : c = ')'
    · subst hclose
      obtain ⟨k, rfl, hrest⟩ := hx.of_close
      rw [Nat.add_right_comm]
      exact (ih hrest).cons_close
    · by_cases hopen : c = '('
      · subst hopen
        have hrest := ih hx.of_open
        rw [Nat.add_right_comm] at hrest
        exact hrest.cons_open
      · exact (ih (hx.of_other hclose hopen)).cons_other hclose hopen

/-- Parentheses around a text that closes its own. -/
theorem enclose (h : Closes 0 text) : Closes 0 ('(' :: (text ++ [')'])) :=
  cons_open (h.append nil.cons_close)

end Closes

/-- What is found before a closing parenthesis closes its own. -/
theorem closes_of_untilClosed {depth : Nat} {text expression after : List Char}
    (h : untilClosed depth text = some (expression, after)) : Closes depth expression := by
  fun_induction untilClosed depth text generalizing expression with
  | case1 => cases h
  | case2 => cases h; exact .nil
  | case3 rest depth ih =>
    obtain ⟨found, hfound, heq⟩ := Option.map_eq_some_iff.1 h
    cases heq
    exact (ih hfound).cons_close
  | case4 depth rest ih =>
    obtain ⟨found, hfound, heq⟩ := Option.map_eq_some_iff.1 h
    cases heq
    exact (ih hfound).cons_open
  | case5 depth c rest hclose hopen ih =>
    obtain ⟨found, hfound, heq⟩ := Option.map_eq_some_iff.1 h
    cases heq
    exact (ih hfound).cons_other hclose hopen

/-- A parenthesis that nothing closes. -/
theorem untilClosed_eq_none_iff {rest : List Char} :
    untilClosed 0 rest = none ↔
      ∀ expression after, Closes 0 expression → rest ≠ expression ++ ')' :: after := by
  constructor
  · rintro hnone expression after hcloses rfl
    rw [untilClosed_of_closes hcloses] at hnone
    cases hnone
  · intro h
    cases hfound : untilClosed 0 rest with
    | none => rfl
    | some found =>
      exact absurd (eq_append_of_untilClosed hfound) (h _ _ (closes_of_untilClosed hfound))

end SqlTemplate.Placeholder
