import SqlTemplate.Proofs.Context.Emission
import SqlTemplate.Proofs.Context.Reference
import SqlTemplate.Proofs.Span.Rescan
import SqlTemplate.Proofs.Statement.Stages

/-!
# Escapes inside loops

Each loop around a text cuts it at its placeholders and puts it together again. A marker that was
escaped stands there without its backslash afterwards, so the next cut can take it for a marker.

**Theorem (`reads_as_written_iff`).** Let a text be written inside some loops. The placeholders that
are found in what comes out are those of the text, with their contents renamed and the same literals
between them, exactly if there is no loop or the cut of the text is settled.

A cut that is not settled is that of a text with an escaped marker: `escaped_marker_in_loop` runs
one through a loop.
-/

namespace SqlTemplate

/-! ## Renaming the contents of a cut -/

namespace Split

variable {s : Split}

theorem Unescaped.rename (h : s.Unescaped) (r : Renaming) :
    (s.mapContents r.content).Unescaped := by
  refine ⟨List.forall_mem_map.2 fun span hspan => ?_, List.forall_mem_map.2 fun span hspan => ?_,
    h.tail⟩
  · exact h.lead span hspan
  · exact r.getLast?_content (by rw [String.toList_ofList]; exact h.content span hspan)

theorem settled_rename_iff (r : Renaming) :
    (s.mapContents r.content).Settled '#' ↔ s.Settled '#' := by
  have hcontent (content : List Char) :
      '\x7d' ∈ (r.content (String.ofList content)).toList ↔ '\x7d' ∈ content := by
    rw [r.mem_content_iff _ rfl rfl (by decide), String.toList_ofList]
  constructor
  · intro h
    refine ⟨fun span hspan => ?_, fun span hspan => ?_, h.tail⟩
    · exact List.forall_mem_map.1 h.lead span hspan
    · rw [← hcontent]
      exact List.forall_mem_map.1 h.content span hspan
  · intro h
    refine ⟨List.forall_mem_map.2 fun span hspan => ?_,
      List.forall_mem_map.2 fun span hspan => ?_, h.tail⟩
    · exact h.lead span hspan
    · rw [hcontent]
      exact h.content span hspan

theorem backslashes_rename (r : Renaming) :
    (s.mapContents r.content).backslashes = s.backslashes := by
  have hcontent (content : List Char) :
      (r.content (String.ofList content)).toList.count '\\' = content.count '\\' := by
    rw [r.count_content _ rfl rfl (by decide), String.toList_ofList]
  simp only [backslashes, mapContents, List.map_map, Function.comp_def, hcontent]

end Split

/-! ## Renaming a fragment -/

namespace Renaming

open Markers (placeholder)

variable (r : Renaming) (sql : String)

theorem toList_fragment :
    (r.fragment sql).toList =
      ((placeholder.split sql).mapContents r.content).toChars placeholder := by
  rw [fragment, Markers.replace, Split.join_enclose, String.toList_ofList]

/-- Enclosing contents again adds no backslash. -/
theorem count_fragment :
    (r.fragment sql).toList.count '\\' = (placeholder.split sql).backslashes := by
  rw [toList_fragment]
  exact (Split.count_toChars (by decide) _).trans (Split.backslashes_rename r)

/-- A settled cut stays as it is. -/
theorem split_fragment (h : (placeholder.split sql).Settled '#') :
    placeholder.split (r.fragment sql) = (placeholder.split sql).mapContents r.content := by
  rw [Markers.split, toList_fragment]
  exact Split.ofChars_toChars (by decide) ((Split.settled_rename_iff r).2 h)
    ((Split.unescaped_ofChars rfl rfl _).rename r)

/-! ## Several renamings -/

variable (rs : List Renaming)

theorem mapContents_contentAll_cons (s : Split) :
    s.mapContents (contentAll (r :: rs)) =
      (s.mapContents r.content).mapContents (contentAll rs) := by
  simp [Split.mapContents, contentAll]

theorem count_fragmentAll_le : (fragmentAll rs sql).toList.count '\\' ≤ sql.toList.count '\\' := by
  induction rs generalizing sql with
  | nil => exact Nat.le_refl _
  | cons r rest ih =>
    refine Nat.le_trans (ih (r.fragment sql)) ?_
    rw [count_fragment]
    exact Split.backslashes_ofChars_le _ _

theorem backslashes_contentAll (s : Split) :
    (s.mapContents (contentAll rs)).backslashes = s.backslashes := by
  induction rs generalizing s with
  | nil => simp [Split.mapContents, contentAll]
  | cons r rest ih => rw [mapContents_contentAll_cons, ih, Split.backslashes_rename]

theorem settled_contentAll_iff (s : Split) :
    (s.mapContents (contentAll rs)).Settled '#' ↔ s.Settled '#' := by
  induction rs generalizing s with
  | nil => simp [Split.mapContents, contentAll]
  | cons r rest ih => rw [mapContents_contentAll_cons, ih, Split.settled_rename_iff]

/-- A settled cut stays as it is through all renamings. -/
theorem split_fragmentAll (h : (placeholder.split sql).Settled '#') :
    placeholder.split (fragmentAll rs sql) =
      (placeholder.split sql).mapContents (contentAll rs) := by
  induction rs generalizing sql with
  | nil => simp [Split.mapContents, contentAll, fragmentAll]
  | cons r rest ih =>
    have hcut := split_fragment r sql h
    rw [mapContents_contentAll_cons, ← hcut]
    exact ih (r.fragment sql) (by rwa [hcut, Split.settled_rename_iff])

/-- **Only a settled cut survives a renaming.** -/
theorem split_fragmentAll_eq_iff :
    placeholder.split (fragmentAll rs sql) = (placeholder.split sql).mapContents (contentAll rs) ↔
      rs = [] ∨ (placeholder.split sql).Settled '#' := by
  constructor
  · intro h
    cases rs with
    | nil => exact .inl rfl
    | cons r rest =>
      -- No cut on the way adds a backslash; so if none is missing in the end, the last cut
      -- drops none.
      have hend := backslashes_contentAll (r :: rest) (placeholder.split sql)
      have hle := count_fragmentAll_le (r.fragment sql) rest
      have hcut :=
        Split.backslashes_ofChars_le placeholder (fragmentAll rest (r.fragment sql)).toList
      rw [count_fragment] at hle
      rw [← h] at hend
      have hsettled := (Split.settled_of_backslashes_eq (by decide)
        (Nat.le_antisymm hcut (hend ▸ hle))).1
      change (placeholder.split (fragmentAll (r :: rest) sql)).Settled '#' at hsettled
      rw [h, settled_contentAll_iff] at hsettled
      exact .inr hsettled
  · rintro (rfl | h)
    · simp [Split.mapContents, contentAll, fragmentAll]
    · exact split_fragmentAll sql rs h

end Renaming

/-! ## Writing inside loops -/

/-- **Which texts read as they are written.** What a text makes of the SQL, after the separators
that it calls for, is a fragment whose placeholders are those of the text, renamed, with the same
literals between them, exactly if no renaming is around it or its cut is settled. -/
theorem reads_as_written_iff (c : Context) (text : String) :
    ∃ before fragment, (c.append text).sql = c.sql ++ String.join before ++ fragment ∧
      (Layer.pass c.layers [text]).2 = before ++ [fragment] ∧
      (Markers.placeholder.split fragment = (Markers.placeholder.split text).mapContents
          (Renaming.contentAll (Layer.renamings c.layers)) ↔
        Layer.renamings c.layers = [] ∨ (Markers.placeholder.split text).Settled '#') := by
  have hpass := Layer.pass_eq_trace c.layers [⟨text, []⟩]
  have hlast := Layer.getLast?_tracePass c.layers [⟨text, []⟩]
  obtain ⟨before, hbefore⟩ := List.getLast?_eq_some_iff.1 hlast
  have hout : (Layer.pass c.layers [text]).2 = before.map Emission.sql ++
      [Renaming.fragmentAll (Layer.renamings c.layers) text] := by
    rw [show [text] = [⟨text, []⟩].map Emission.sql from rfl, hpass, hbefore, List.map_append]
    rfl
  refine ⟨before.map Emission.sql, Renaming.fragmentAll (Layer.renamings c.layers) text, ?_, hout,
    Renaming.split_fragmentAll_eq_iff text _⟩
  rw [Context.append_sql, hout]
  simp [String.append_assoc]

/-- In a loop an escaped marker is bound: its text has no placeholder, the statement has one. -/
theorem escaped_marker_in_loop :
    Markers.placeholder.split "\\#\x7bx\x7d" = ⟨[], some "#\x7bx\x7d".toList⟩ ∧
      (Source.statement
        { template := .loop ⟨"xs", some "x", none, none, none, none⟩ [.text "\\#\x7bx\x7d"] }
        Engine.paths (.map [("xs", .list [.int 1])])).toOption.map
          (fun st => (st.sql, st.mappings, st.parameters.map Value.isNull)) =
        some ("?", [{ property := some "x" }], [true]) := by
  decide +kernel

end SqlTemplate
