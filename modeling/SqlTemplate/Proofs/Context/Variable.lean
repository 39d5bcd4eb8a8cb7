import SqlTemplate.Context.Bindings
import SqlTemplate.Proofs.Context.Emission
import SqlTemplate.Proofs.Context.Reference
import SqlTemplate.Proofs.Expr.Path

/-!
# Loop variables and what refers to them

The name of a loop variable is an identifier that means nothing else in an expression and cannot be
taken for the name of an iteration. A content refers to at most one such name, and a content that
has been renamed refers to none.

**Theorem (`contentAll_of_reference`).** Through all renamings around it, a content that refers to a
variable of one of them is renamed exactly once, by a renaming that has the variable.
-/

namespace SqlTemplate

/-- Names with a meaning of their own in expressions and bindings. -/
def reservedNames : List String := ["null", "true", "false", "and", "or", "not", "_parameter"]

/-- A name for a loop variable: an identifier that is not reserved and does not start like the
names of iterations. -/
structure IsVariable (name : String) : Prop where
  identifier : Token.isIdentifier name.toList
  notReserved : name ∉ reservedNames
  notIteration : ¬ "__frch_".toList <+: name.toList

instance (name : String) : Decidable (IsVariable name) :=
  decidable_of_iff (Token.isIdentifier name.toList ∧ name ∉ reservedNames ∧
      ¬ "__frch_".toList <+: name.toList)
    ⟨fun h => ⟨h.1, h.2.1, h.2.2⟩, fun h => ⟨h.identifier, h.notReserved, h.notIteration⟩⟩

/-- A name that is not reserved is a name in expressions. -/
theorem isName_of_identifier {name : String} (hidentifier : Token.isIdentifier name.toList)
    (hreserved : name ∉ reservedNames) : Expr.IsName name := by
  simp only [reservedNames, List.mem_cons, List.not_mem_nil, not_or, or_false] at hreserved
  obtain ⟨hnull, htrue, hfalse, hand, hor, hnot, -⟩ := hreserved
  refine ⟨hidentifier, ?_, ?_⟩
  · rw [Token.ofWord, if_neg hand, if_neg hor, if_neg hnot]
  · rw [Expr.constant?, if_neg hnull, if_neg htrue, if_neg hfalse]

namespace Renaming

variable {v w : String} {n : Nat} {content rest rest' : List Char}

/-! ## Names of iterations -/

theorem prefix_iterationName (v : String) (n : Nat) :
    "__frch_".toList <+: (iterationName v n).toList := by
  rw [toList_iterationName, List.append_assoc]
  exact List.prefix_append _ _

/-- No name that starts differently is the name of an iteration. -/
theorem ne_iterationName (hw : ¬ "__frch_".toList <+: w.toList) (v : String) (n : Nat) :
    w ≠ iterationName v n := by
  rintro rfl
  exact hw (prefix_iterationName v n)

theorem isIdentifier_iterationName (hv : Token.isIdentifier v.toList) (n : Nat) :
    Token.isIdentifier (iterationName v n).toList := by
  rw [toList_iterationName]
  change (Token.startsName '_' && ("_frch_".toList ++ v.toList ++
    '_' :: Nat.toDigits 10 n).all Token.continuesName) = true
  rw [Bool.and_eq_true, List.all_eq_true]
  refine ⟨rfl, fun c hc => ?_⟩
  rw [List.mem_append, List.mem_append, List.mem_cons] at hc
  rcases hc with (hc | hc) | rfl | hc
  · have hall : "_frch_".toList.all Token.continuesName := by decide
    exact List.all_eq_true.1 hall c hc
  · exact Token.continuesName_of_mem hv hc
  · rfl
  · exact Token.continuesName_of_isDigit (isDigit_of_mem_toDigits hc)

theorem iterationName_not_reserved (v : String) (n : Nat) : iterationName v n ∉ reservedNames := by
  intro h
  have hall : ∀ name ∈ reservedNames, ¬ "__frch_".toList <+: name.toList := by decide
  exact hall _ h (prefix_iterationName v n)

theorem isName_iterationName (hv : Token.isIdentifier v.toList) (n : Nat) :
    Expr.IsName (iterationName v n) :=
  isName_of_identifier (isIdentifier_iterationName hv n) (iterationName_not_reserved v n)

/-! ## References -/

/-- Nothing that ends a reference continues a name. -/
theorem continuesName_of_endsReference (h : endsReference rest) :
    ∀ c ∈ rest.head?, Token.continuesName c = false := by
  intro c hc
  cases rest with
  | nil => cases hc
  | cons d rest =>
    cases hc
    simp only [endsReference, Bool.or_eq_true, beq_iff_eq] at h
    rcases h with ((rfl | rfl) | rfl) | h
    · decide
    · decide
    · decide
    · exact Token.continuesName_of_isSpace h

/-- A content refers to one name at most. -/
theorem eq_of_afterReference? (hv : Token.isIdentifier v.toList)
    (hw : Token.isIdentifier w.toList) (h : afterReference? v content = some rest)
    (h' : afterReference? w content = some rest') : v = w := by
  obtain ⟨htext, hends⟩ := afterReference?_eq_some.1 h
  obtain ⟨htext', hends'⟩ := afterReference?_eq_some.1 h'
  have hword := (Token.takeWhile_identifier (fun c => Token.continuesName_of_mem hv)
    (continuesName_of_endsReference hends)).1
  have hword' := (Token.takeWhile_identifier (fun c => Token.continuesName_of_mem hw)
    (continuesName_of_endsReference hends')).1
  rw [← htext] at hword
  rw [← htext', hword] at hword'
  exact String.toList_inj.1 hword'

/-- A renaming renames the references to its own variables and no others. -/
theorem content_of_reference {r : Renaming} {content : String}
    (hr : ∀ w ∈ r.names, IsVariable w) (hv : Token.isIdentifier v.toList)
    (h : afterReference? v content.toList = some rest) :
    r.content content =
      if v ∈ r.names then iterationName v r.number ++ String.ofList rest else content := by
  rcases r.content_cases content with ⟨hnone, heq⟩ | ⟨w, hw, rest', hrest', heq⟩
  · rw [if_neg, heq]
    intro hmem
    rw [hnone v hmem] at h
    cases h
  · obtain rfl := eq_of_afterReference? hv (hr w hw).identifier h hrest'
    rw [h] at hrest'
    cases hrest'
    rw [if_pos hw, heq]

/-- A renamed content refers to the name of the iteration. -/
theorem afterReference?_iterationName (v : String) (n : Nat) (hrest : endsReference rest) :
    afterReference? (iterationName v n) (iterationName v n ++ String.ofList rest).toList =
      some rest := by
  rw [afterReference?_eq_some, String.toList_append, String.toList_ofList (l := rest)]
  refine ⟨?_, hrest⟩
  rw [toList_iterationName]
  rfl

variable {rs : List Renaming} (hrs : ∀ r ∈ rs, ∀ w ∈ r.names, IsVariable w)

include hrs

/-- Renamings leave references to other names alone. -/
theorem contentAll_of_not_mem {content : String} (hv : Token.isIdentifier v.toList)
    (h : afterReference? v content.toList = some rest) (hnot : ∀ r ∈ rs, v ∉ r.names) :
    contentAll rs content = content := by
  induction rs with
  | nil => rfl
  | cons r rest' ih =>
    obtain ⟨hr, hrs⟩ := List.forall_mem_cons.1 hrs
    obtain ⟨hnotr, hnot⟩ := List.forall_mem_cons.1 hnot
    have hcontent := content_of_reference hr hv h
    rw [if_neg hnotr] at hcontent
    rw [contentAll, List.foldl_cons, hcontent]
    exact ih hrs hnot

/-- **A reference is renamed exactly once**, by a renaming that has the variable. -/
theorem contentAll_of_reference {content : String} (hv : Token.isIdentifier v.toList)
    (h : afterReference? v content.toList = some rest) (hmem : ∃ r ∈ rs, v ∈ r.names) :
    ∃ r ∈ rs, v ∈ r.names ∧
      contentAll rs content = iterationName v r.number ++ String.ofList rest := by
  induction rs with
  | nil => obtain ⟨r, hr, -⟩ := hmem; cases hr
  | cons r rest' ih =>
    obtain ⟨hr, hrs⟩ := List.forall_mem_cons.1 hrs
    have hcontent := content_of_reference hr hv h
    by_cases hvr : v ∈ r.names
    · rw [if_pos hvr] at hcontent
      refine ⟨r, List.mem_cons_self, hvr, ?_⟩
      rw [contentAll, List.foldl_cons, hcontent]
      refine contentAll_of_not_mem hrs (isIdentifier_iterationName hv r.number)
        (afterReference?_iterationName v r.number (afterReference?_eq_some.1 h).2) ?_
      exact fun r' hr' hmem => ne_iterationName (hrs r' hr' _ hmem).notIteration v r.number rfl
    · rw [if_neg hvr] at hcontent
      obtain ⟨r', hr', hvr'⟩ := hmem
      rcases List.mem_cons.1 hr' with rfl | hr'
      · exact absurd hvr' hvr
      · obtain ⟨r'', hr'', hvr'', heq⟩ := ih hrs ⟨r', hr', hvr'⟩
        refine ⟨r'', List.mem_cons_of_mem r hr'', hvr'', ?_⟩
        rw [contentAll, List.foldl_cons, hcontent]
        exact heq

end Renaming

end SqlTemplate
