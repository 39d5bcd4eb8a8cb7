import SqlTemplate.Proofs.Context.Escapes
import SqlTemplate.Proofs.Expansion.Bound
import SqlTemplate.Proofs.Span.Whole

/-!
# The placeholders of a run

The SQL of a run is cut as a whole, after all texts that came out of it have been put together.

**Theorem (`contents_of_emissions`).** If every one of these texts is whole, the contents found in
the SQL are those of the texts, one text after the other, each renamed by the renamings that its
text has gone through. What is found in whole texts one after the other is found in each of them
(`whole_join`).
-/

namespace SqlTemplate

open Markers (placeholder)

/-! ## Renaming whole texts -/

theorem Split.Closed.rename {s : Split} (h : s.Closed '#') (r : Renaming) :
    (s.mapContents r.content).Closed '#' :=
  ⟨(Split.settled_rename_iff r).2 h.settled, h.unescaped.rename r, h.literal, h.sigil_last,
    h.backslash_last⟩

theorem Whole.fragment {sql : String} (h : Whole '#' sql.toList) (r : Renaming) :
    Whole '#' (r.fragment sql).toList := by
  rw [Renaming.toList_fragment]
  exact (Whole.of_closed (by decide) (h.closed.rename r)).1

/-- A whole text stays whole through all renamings. -/
theorem Whole.fragmentAll {sql : String} (h : Whole '#' sql.toList) (rs : List Renaming) :
    Whole '#' (Renaming.fragmentAll rs sql).toList := by
  induction rs generalizing sql with
  | nil => exact h
  | cons r rest ih => exact ih (h.fragment r)

/-- **Whole texts are cut one by one.** -/
theorem whole_join {texts : List String} (h : ∀ t ∈ texts, Whole '#' t.toList) :
    Whole '#' (String.join texts).toList ∧
      (placeholder.split (String.join texts)).contents =
        texts.flatMap (fun t => (placeholder.split t).contents) ∧
      ∀ f, placeholder.replace f (String.join texts) =
        String.join (texts.map (placeholder.replace f)) := by
  induction texts with
  | nil =>
    have hempty : Plain '#' [] := by decide
    have hcut : placeholder.split "" = ⟨[], some []⟩ := Split.ofChars_of_literal (by decide)
    refine ⟨hempty.whole (by decide) (by decide), congrArg Split.contents hcut, fun f => ?_⟩
    exact congrArg (Split.join f) hcut
  | cons t rest ih =>
    obtain ⟨ht, hrest⟩ := List.forall_mem_cons.1 h
    obtain ⟨hwhole, hcontents, hreplace⟩ := ih hrest
    obtain ⟨hboth, hcut⟩ := Whole.ofChars_append (by decide) ht hwhole
    have hsplit : placeholder.split (String.join (t :: rest)) =
        (placeholder.split t).append (placeholder.split (String.join rest)) := by
      rw [Markers.split, String.join_cons, String.toList_append]
      exact hcut
    refine ⟨?_, ?_, fun f => ?_⟩
    · rwa [String.join_cons, String.toList_append]
    · rw [hsplit, Split.contents_append, hcontents, List.flatMap_cons]
    · rw [Markers.replace, hsplit, Split.join_append, List.map_cons, String.join_cons, ← hreplace]
      rfl

/-! ## Placeholders where they come out -/

/-- A placeholder of a text that comes out of a run: its content as written, the renamings that the
text goes through, and the bindings at its place. -/
structure Occurrence where
  content : String
  renamings : List Renaming
  bindings : Bindings

/-- The content that the SQL has. -/
def Occurrence.renamed (o : Occurrence) : String := Renaming.contentAll o.renamings o.content

/-- The placeholders of the texts that come out of a run. -/
def occurrencesOf (written : List (Emission × Bindings)) : List Occurrence :=
  written.flatMap fun w =>
    (placeholder.split w.1.text).contents.map fun content => ⟨content, w.1.renamings, w.2⟩

theorem renamed_occurrencesOf (written : List (Emission × Bindings)) :
    (occurrencesOf written).map Occurrence.renamed = (written.map Prod.fst).flatMap fun e =>
      (placeholder.split e.text).contents.map (Renaming.contentAll e.renamings) := by
  rw [occurrencesOf, List.map_flatMap, List.flatMap_map]
  refine List.flatMap_congr fun w _ => ?_
  rw [List.map_map]
  rfl

/-- **The contents of the SQL are those of its texts, renamed.** -/
theorem contents_of_emissions {written : List (Emission × Bindings)}
    (hwhole : ∀ w ∈ written, Whole '#' w.1.text.toList) :
    (placeholder.split (String.join (written.map fun w => w.1.sql))).contents =
      (occurrencesOf written).map Occurrence.renamed := by
  have hsql : ∀ t ∈ written.map (fun w => w.1.sql), Whole '#' t.toList :=
    List.forall_mem_map.2 fun w hw => (hwhole w hw).fragmentAll w.1.renamings
  rw [(whole_join hsql).2.1, renamed_occurrencesOf, List.flatMap_map, List.flatMap_map]
  refine List.flatMap_congr fun w hw => ?_
  rw [Emission.sql, Renaming.split_fragmentAll _ _ (hwhole w hw).closed.settled,
    Split.contents_mapContents]

end SqlTemplate
