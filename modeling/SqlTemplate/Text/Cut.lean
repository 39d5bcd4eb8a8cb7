/-!
# Cutting a text at a character

`after?` takes a text off the front of another. `cut` divides a text at the first character that
passes a test: what stands before it, and what follows it, if there is such a character; `pieces`
divides it at every separator. `byteLength` counts the bytes of a text in UTF-8; places in a text
are reported as byte counts.
-/

namespace SqlTemplate.Text

/-- What follows `lead` in a text that starts with it. -/
def after? : (lead text : List Char) → Option (List Char)
  | [], text => some text
  | _ :: _, [] => none
  | a :: lead, c :: rest => if a = c then after? lead rest else none

theorem after?_eq_some_iff {lead text rest : List Char} :
    after? lead text = some rest ↔ text = lead ++ rest := by
  fun_induction after? lead text with
  | case1 text => simp
  | case2 a lead => simp
  | case3 a lead text ih => simp [ih]
  | case4 a lead c text h => simp [Ne.symm h]

theorem length_of_after? {lead text rest : List Char} (h : after? lead text = some rest) :
    rest.length ≤ text.length := by
  simp [after?_eq_some_iff.1 h]

theorem length_dropWhile_le (p : Char → Bool) (text : List Char) :
    (text.dropWhile p).length ≤ text.length := (List.dropWhile_suffix p).length_le

/-- What stands before the first character that passes the test, and what follows it. -/
def cut (stop : Char → Bool) : List Char → List Char × Option (List Char)
  | [] => ([], none)
  | c :: rest =>
    if stop c then ([], some rest)
    else
      let (before, after) := cut stop rest
      (c :: before, after)

theorem length_of_cut {stop : Char → Bool} {text after : List Char}
    (h : (cut stop text).2 = some after) : after.length < text.length := by
  induction text with
  | nil => simp [cut] at h
  | cons c rest ih =>
    simp only [cut] at h
    split at h
    · cases h; simp
    · exact Nat.lt_succ_of_lt (ih h)

/-- The pieces of a text between the separators; there is one more of them than separators. -/
def pieces (separator : Char) : List Char → List (List Char)
  | [] => [[]]
  | c :: rest =>
    if c = separator then [] :: pieces separator rest
    else
      match pieces separator rest with
      | [] => [[c]]
      | piece :: more => (c :: piece) :: more

/-- The number of bytes of a text in UTF-8. -/
def byteLength : List Char → Nat
  | [] => 0
  | c :: rest => c.utf8Size + byteLength rest

end SqlTemplate.Text
