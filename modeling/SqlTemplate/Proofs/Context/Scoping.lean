import SqlTemplate.Proofs.Context.Escapes
import SqlTemplate.Proofs.Span.EscapeFree

/-!
# The scope of loop binders

A text inside several loops goes through the renaming of each, from the innermost to the outermost,
and each of them cuts it anew. What comes out can be said without the order of these steps: a
placeholder is looked up in the loops around it, and the first variable that it refers to names it.

**Theorem (`lexically_scoped`).** Let no loop variable start like the name of an iteration, and let
no backslash stand directly before a marker of the text. Then what is written is the text with each
complete placeholder replaced by itself: `Scoped` says what becomes of its content, independently of
all others, and everything else is unchanged.

A content that has been renamed starts with the name of an iteration and refers to no variable any
more (`afterReference?_iterationName_eq_none`), so it is renamed once at most
(`contentAll_iterationName`).
-/

namespace SqlTemplate

namespace Renaming

open Text (isSpace trimStart)

variable {name : String} {content rest : List Char}

/-! ## Looking up a reference -/

/-- A content refers to a name: after the spaces at its start comes the name, and then its end, a
dot, a comma, a colon or a space. `rest` is what follows the name. -/
structure RefersTo (name : String) (content rest : List Char) : Prop where
  after_spaces : ∃ spaces, content = spaces ++ (name.toList ++ rest) ∧ ∀ c ∈ spaces, isSpace c
  no_space : ∀ c ∈ (name.toList ++ rest).head?, isSpace c = false
  ends : ∀ c ∈ rest.head?, c = '.' ∨ c = ',' ∨ c = ':' ∨ isSpace c

theorem endsReference_iff :
    endsReference rest ↔ ∀ c ∈ rest.head?, c = '.' ∨ c = ',' ∨ c = ':' ∨ isSpace c := by
  cases rest with
  | nil => simp [endsReference]
  | cons c rest => simp [endsReference, or_assoc]

theorem refersTo_iff : RefersTo name content rest ↔ afterReference? name content = some rest := by
  rw [afterReference?_eq_some]
  constructor
  · rintro ⟨⟨spaces, rfl, hspaces⟩, hfirst, hends⟩
    refine ⟨?_, endsReference_iff.2 hends⟩
    rw [trimStart, List.dropWhile_append_of_pos hspaces]
    generalize name.toList ++ rest = text at hfirst
    cases text with
    | nil => rfl
    | cons c text => rw [List.dropWhile_cons, hfirst c rfl, if_neg Bool.false_ne_true]
  · rintro ⟨htrim, hends⟩
    refine ⟨⟨content.takeWhile isSpace, ?_, fun c hc => ?_⟩, fun c hc => ?_,
      endsReference_iff.1 hends⟩
    · rw [← htrim, trimStart, List.takeWhile_append_dropWhile]
    · exact List.all_eq_true.1 List.all_takeWhile c hc
    · have hfirst := List.head?_dropWhile_not isSpace content
      rw [← trimStart, htrim, Option.mem_def.1 hc] at hfirst
      exact hfirst

/-- The binders of some loops, each with the number of its iteration, in the order of their
precedence: an inner loop before an outer one, in a loop the item before the index. -/
def binders (rs : List Renaming) : List (String × Nat) :=
  rs.flatMap fun r => r.names.map fun name => (name, r.number)

/-- What becomes of a content in the scope of some binders, in the order of their precedence. -/
inductive Scoped (binders : List (String × Nat)) : List Char → List Char → Prop
  /-- A content that refers to none of them is left as it is. -/
  | free {content : List Char}
      (hfree : ∀ v ∈ binders, ∀ rest, ¬ RefersTo v.1 content rest) :
      Scoped binders content content
  /-- A reference to the first of them that is referred to gets the name of its iteration. -/
  | bound {before after : List (String × Nat)} {name : String} {number : Nat}
      {content rest : List Char} (hbinders : binders = before ++ (name, number) :: after)
      (hbefore : ∀ v ∈ before, ∀ rest, ¬ RefersTo v.1 content rest)
      (hrefers : RefersTo name content rest) :
      Scoped binders content ((iterationName name number).toList ++ rest)

theorem Scoped.append_left {inner outer : List (String × Nat)} {content' : List Char}
    (hinner : ∀ v ∈ inner, ∀ rest, ¬ RefersTo v.1 content rest)
    (h : Scoped outer content content') : Scoped (inner ++ outer) content content' := by
  cases h with
  | free hfree => exact .free (List.forall_mem_append.2 ⟨hinner, hfree⟩)
  | @bound before after name number _ rest hbinders hbefore hrefers =>
    have happend : inner ++ outer = inner ++ before ++ (name, number) :: after := by
      rw [hbinders, List.append_assoc]
    exact .bound happend (List.forall_mem_append.2 ⟨hinner, hbefore⟩) hrefers

theorem not_refersTo_iff :
    (∀ rest, ¬ RefersTo name content rest) ↔ afterReference? name content = none := by
  simp only [refersTo_iff, Option.eq_none_iff_forall_ne_some, ne_eq]

/-- One loop looks a content up among its own binders. -/
theorem scoped_content (r : Renaming) (content : List Char) :
    Scoped (binders [r]) content (r.content (String.ofList content)).toList := by
  have hbinders : binders [r] = r.names.map fun name => (name, r.number) :=
    List.append_nil _
  rw [Renaming.content, String.toList_ofList (l := content), hbinders]
  cases h : r.names.findSome? fun name =>
      (afterReference? name content).map fun rest =>
        iterationName name r.number ++ String.ofList rest with
  | none =>
    rw [List.findSome?_eq_none_iff] at h
    rw [Option.getD_none, String.toList_ofList]
    refine .free (List.forall_mem_map.2 fun name hname => ?_)
    exact not_refersTo_iff.2 (Option.map_eq_none_iff.1 (h name hname))
  | some renamed =>
    obtain ⟨before, name, after, hnames, hname, hbefore⟩ := List.findSome?_eq_some_iff.1 h
    obtain ⟨rest, hrest, rfl⟩ := Option.map_eq_some_iff.1 hname
    rw [Option.getD_some, String.toList_append, String.toList_ofList]
    have hbinders : (r.names.map fun name => (name, r.number)) =
        (before.map fun name => (name, r.number)) ++
          (name, r.number) :: after.map fun name => (name, r.number) := by
      rw [hnames, List.map_append, List.map_cons]
    refine .bound hbinders (List.forall_mem_map.2 fun name hname => ?_) (refersTo_iff.2 hrest)
    exact not_refersTo_iff.2 (Option.map_eq_none_iff.1 (hbefore name hname))

/-! ## A content inside several loops -/

/-- What has the name of an iteration refers to no variable that starts differently. -/
theorem afterReference?_iterationName_eq_none (hname : ¬ "__frch_".toList <+: name.toList)
    (v : String) (n : Nat) (rest : List Char) :
    afterReference? name ((iterationName v n).toList ++ rest) = none := by
  rw [Option.eq_none_iff_forall_ne_some]
  intro after hafter
  obtain ⟨htext, hends⟩ := afterReference?_eq_some.1 hafter
  rw [toList_iterationName, List.append_assoc, List.append_assoc] at htext
  change "__frch_".toList ++ _ = _ at htext
  rcases List.append_eq_append_iff.1 htext with ⟨more, hmore, -⟩ | ⟨more, hmore, hafter⟩
  · exact hname ⟨more, hmore.symm⟩
  · -- The name ends inside the mark of iterations, where no reference ends.
    cases more with
    | nil => exact hname ⟨[], by rw [List.append_nil, hmore, List.append_nil]⟩
    | cons c more =>
      have hmark : "__frch_".toList.all (!endsReference [·]) := by decide
      have hc := List.all_eq_true.1 hmark c (by simp [hmore])
      rw [hafter] at hends
      rw [show endsReference [c] = true from hends] at hc
      cases hc

section several

variable {rs : List Renaming} (hrs : ∀ r ∈ rs, ∀ name ∈ r.names, ¬ "__frch_".toList <+: name.toList)

include hrs

/-- What has the name of an iteration is not renamed again. -/
theorem contentAll_iterationName (v : String) (n : Nat) (rest : List Char) :
    contentAll rs (String.ofList ((iterationName v n).toList ++ rest)) =
      String.ofList ((iterationName v n).toList ++ rest) := by
  induction rs with
  | nil => rfl
  | cons r outer ih =>
    obtain ⟨hr, hrs⟩ := List.forall_mem_cons.1 hrs
    rw [contentAll, List.foldl_cons]
    rcases r.content_cases (String.ofList ((iterationName v n).toList ++ rest)) with
      ⟨-, heq⟩ | ⟨name, hname, after, hafter, -⟩
    · rw [heq]
      exact ih hrs
    · rw [String.toList_ofList, afterReference?_iterationName_eq_none (hr name hname)] at hafter
      cases hafter

/-- **A content is looked up in all loops around it at once.** -/
theorem scoped_contentAll (content : List Char) :
    Scoped (binders rs) content (contentAll rs (String.ofList content)).toList := by
  induction rs with
  | nil =>
    rw [contentAll, List.foldl_nil, String.toList_ofList]
    exact .free (List.forall_mem_nil _)
  | cons r outer ih =>
    obtain ⟨-, hrs⟩ := List.forall_mem_cons.1 hrs
    have hbinders : binders (r :: outer) = binders [r] ++ binders outer := by simp [binders]
    have hinner := scoped_content r content
    rw [contentAll, List.foldl_cons, hbinders,
      ← String.ofList_toList (s := r.content (String.ofList content))]
    generalize (r.content (String.ofList content)).toList = c at hinner ⊢
    cases hinner with
    | free hfree => exact (ih hrs).append_left hfree
    | @bound before after name number _ rest hname hbefore hrefers =>
      have hrenamed := contentAll_iterationName hrs name number rest
      have happend : binders [r] ++ binders outer =
          before ++ (name, number) :: (after ++ binders outer) := by
        rw [hname, List.append_assoc, List.cons_append]
      rw [contentAll] at hrenamed
      rw [hrenamed, String.toList_ofList]
      exact .bound happend hbefore hrefers

end several

end Renaming

/-! ## A text inside several loops -/

namespace Renaming

open Markers (placeholder)

/-- A text with a settled cut goes through all renamings as that cut. -/
theorem toList_fragmentAll (rs : List Renaming) (text : String)
    (hsettled : (placeholder.split text).Settled '#')
    (htext : (placeholder.split text).toChars placeholder = text.toList) :
    (fragmentAll rs text).toList =
      ((placeholder.split text).mapContents (contentAll rs)).toChars placeholder := by
  induction rs generalizing text with
  | nil => simpa [fragmentAll, contentAll, Split.mapContents] using htext.symm
  | cons r outer ih =>
    have hcut := split_fragment r text hsettled
    have hsettled' : (placeholder.split (r.fragment text)).Settled '#' := by
      rwa [hcut, Split.settled_rename_iff]
    rw [mapContents_contentAll_cons, ← hcut]
    exact ih (r.fragment text) hsettled' (by rw [hcut, toList_fragment])

end Renaming

/-- Renamings alone put nothing before a text. -/
theorem Layer.pass_renamings (rs : List Renaming) (text : String) :
    Layer.pass (rs.map Layer.rename) [text] =
      (rs.map Layer.rename, [Renaming.fragmentAll rs text]) := by
  induction rs generalizing text with
  | nil => rfl
  | cons r outer ih =>
    have hthrough : (Layer.rename r).throughAll [text] = (.rename r, [r.fragment text]) := rfl
    rw [List.map_cons, Layer.pass, hthrough]
    dsimp only
    rw [ih]
    rfl

/-- **Renaming is lexically scoped.** Take a text in which no backslash stands directly before a
marker, inside loops none of whose variables starts like the name of an iteration. The text has one
cut at its complete placeholders. What is written is that cut, with the content of each placeholder
looked up in the loops around it, and with the same literals. -/
theorem lexically_scoped (c : Context) (rs : List Renaming) (text : String)
    (hlayers : c.layers = rs.map Layer.rename)
    (hnames : ∀ r ∈ rs, ∀ name ∈ r.names, ¬ "__frch_".toList <+: name.toList)
    (htext : EscapeFree '#' text.toList) :
    ∃ cut renamed : Split,
      (∀ s : Split, s.Delimits '#' text.toList ↔ s = cut) ∧
      (c.append text).sql = c.sql ++ String.ofList (renamed.toChars Markers.placeholder) ∧
      List.Forall₂ (fun span span' => span'.lead = span.lead ∧
          Renaming.Scoped (Renaming.binders rs) span.content span'.content)
        cut.spans renamed.spans ∧
      renamed.tail = cut.tail := by
  obtain ⟨cut, hcut⟩ := Split.exists_delimits (show '#' ≠ '\x7b' by decide) (by decide) text.toList
  have hsplit (s : Split) (h : s.Delimits '#' text.toList) :
      Markers.placeholder.split text = s := Split.ofChars_eq_of_delimits (by decide) htext h
  have hfragment := Renaming.toList_fragmentAll rs text
  rw [hsplit cut hcut] at hfragment
  refine ⟨cut, cut.mapContents (Renaming.contentAll rs), fun s => ⟨fun hs => ?_, fun hs => ?_⟩,
    ?_, ?_, rfl⟩
  · rw [← hsplit s hs, hsplit cut hcut]
  · rwa [hs]
  · rw [Context.append_sql, hlayers, Layer.pass_renamings,
      ← hfragment (hcut.settled (by decide) htext).1 hcut.toChars_eq, String.ofList_toList]
    simp
  · refine List.forall₂_map_right_iff.2 (List.forall₂_same.2 fun span _ => ⟨rfl, ?_⟩)
    exact Renaming.scoped_contentAll hnames span.content

/-- Two loops that share a variable, one of whose variables is a prefix of another, around a text
with an opening marker that is not closed. -/
theorem lexically_scoped_in_two_loops :
    let rs : List Renaming := [⟨some "x", some "i", 3⟩, ⟨some "xs", some "x", 1⟩]
    let c : Context := { Context.ofParameter .null none with layers := rs.map Layer.rename }
    let text := "#\x7b x.id\x7d, #\x7bxs\x7d, #\x7bi, mode=IN\x7d, #\x7bxy\x7d, ##\x7bx"
    let cut : Split := ⟨[⟨"".toList, " x.id".toList⟩, ⟨", ".toList, "xs".toList⟩,
      ⟨", ".toList, "i, mode=IN".toList⟩, ⟨", ".toList, "xy".toList⟩], some ", ##\x7bx".toList⟩
    (∃ renamed : Split,
      (c.append text).sql = c.sql ++ String.ofList (renamed.toChars Markers.placeholder) ∧
      List.Forall₂ (fun span span' => span'.lead = span.lead ∧
          Renaming.Scoped (Renaming.binders rs) span.content span'.content)
        cut.spans renamed.spans ∧
      renamed.tail = cut.tail) ∧
    (c.append text).sql =
      "#\x7b__frch_x_3.id\x7d, #\x7b__frch_xs_1\x7d, " ++
        "#\x7b__frch_i_3, mode=IN\x7d, #\x7bxy\x7d, ##\x7bx" := by
  intro rs c text cut
  have hcut : cut.Delimits '#' text.toList := by
    have hnone : '\x7d' ∉ ", ##\x7bx".toList := by decide
    refine ⟨by decide +kernel, by decide +kernel, by decide +kernel, _, rfl,
      fun before rest heq hclosed => hnone ?_⟩
    rw [heq]
    simp [hclosed]
  obtain ⟨cut', renamed, hcuts, hsql, hspans, htail⟩ :=
    lexically_scoped c rs text rfl (by decide) (by decide +kernel)
  obtain rfl := (hcuts cut).1 hcut
  exact ⟨⟨renamed, hsql, hspans, htail⟩, by decide +kernel⟩

end SqlTemplate
