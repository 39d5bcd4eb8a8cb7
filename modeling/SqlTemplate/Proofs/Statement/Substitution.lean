import SqlTemplate.Proofs.Expansion.Filling
import SqlTemplate.Proofs.Statement.Deferred

/-!
# Substituted texts in a statement

A substituted text becomes part of the SQL before the SQL is read for placeholders, so it is read
for placeholders as well (`substituted_marker_is_bound`). A text is **inert** if no marker can be
read out of it, whatever stands around it.

**Theorem (`Source.substituted_texts_verbatim`).** Let the literals of a template be whole and the
texts that are substituted inert. Then the SQL of a statement consists of the texts that came out of
the expansion, with question marks for the placeholders of their literals and the substituted texts
as they are; and its mappings are those of these placeholders.

It combines two facts. The texts that come out are fillings of the texts of the template
(`Template.exists_fillings`), and what is found in whole texts one after the other is found in each
of them (`whole_join`).
-/

namespace SqlTemplate

open Markers (placeholder)

/-! ## Inert texts -/

/-- A text without an opening marker that can neither complete one nor escape one. -/
structure Inert (text : String) : Prop where
  opening : ¬ ['#', '\x7b'] <:+: text.toList
  sigil_last : text.toList.getLast? ≠ some '#'
  backslash_last : text.toList.getLast? ≠ some '\\'

instance (text : String) : Decidable (Inert text) :=
  decidable_of_iff (¬ ['#', '\x7b'] <:+: text.toList ∧ text.toList.getLast? ≠ some '#' ∧
      text.toList.getLast? ≠ some '\\')
    ⟨fun h => ⟨h.1, h.2.1, h.2.2⟩, fun h => ⟨h.opening, h.sigil_last, h.backslash_last⟩⟩

namespace Inert

variable {text : String}

theorem split_eq (h : Inert text) : placeholder.split text = ⟨[], some text.toList⟩ :=
  Split.ofChars_of_literal h.opening

theorem whole (h : Inert text) : Whole '#' text.toList := by
  have hcut : Split.ofChars (.braced '#') text.toList = ⟨[], some text.toList⟩ := h.split_eq
  constructor
  · rw [hcut]
    exact ⟨⟨List.forall_mem_nil _, List.forall_mem_nil _, hcut⟩,
      ⟨List.forall_mem_nil _, List.forall_mem_nil _, rfl⟩, h.opening, h.sigil_last,
      h.backslash_last⟩
  · rw [hcut]
    rfl

theorem contents_eq (h : Inert text) : (placeholder.split text).contents = [] := by
  rw [h.split_eq]
  rfl

theorem replace_eq (h : Inert text) (f : String → String) : placeholder.replace f text = text := by
  rw [Markers.replace, h.split_eq]
  exact (String.empty_append).trans String.ofList_toList

end Inert

/-! ## Fillings with inert values -/

/-- A text with a question mark for each placeholder. -/
def marked (text : String) : String := placeholder.replace (fun _ => "?") text

/-- Renaming the contents of placeholders leaves the question marks where they are. -/
theorem marked_fragmentAll {text : String} (h : Whole '#' text.toList) (rs : List Renaming) :
    marked (Renaming.fragmentAll rs text) = marked text := by
  rw [marked, marked, Markers.replace, Markers.replace,
    Renaming.split_fragmentAll _ _ h.closed.settled]
  simp [Split.join, Split.mapContents, Function.comp_def]

namespace Filling

/-- A filling with each literal replaced by its image. -/
def mapLiterals (g : String → String) (f : Filling) : Filling :=
  { f with parts := f.parts.map fun p => (g p.1, p.2), tail := g f.tail }

/-- The SQL that a text becomes: question marks for the placeholders of the literals, and the values
as they are. -/
def sql (f : Filling) : String := (f.mapLiterals marked).text

/-- The contents of the placeholders of the literals, renamed. -/
def placeholders (f : Filling) : List String :=
  f.literals.flatMap fun literal =>
    (placeholder.split literal).contents.map (Renaming.contentAll f.renamings)

/-- The literals and the values, in order. -/
def pieces (f : Filling) : List String := f.parts.flatMap (fun p => [p.1, p.2]) ++ [f.tail]

theorem text_eq_join_pieces (f : Filling) : f.text = String.join f.pieces := by
  obtain ⟨parts, tail, renamings⟩ := f
  simp only [text, pieces, String.join_append]
  refine congrArg₂ (· ++ ·) ?_ (by simp)
  induction parts with
  | nil => rfl
  | cons p rest ih =>
    rw [List.map_cons, List.flatMap_cons, String.join_append, String.join_cons, ih]
    simp [String.append_assoc]

variable {f : Filling}

/-- What an image does to literals only, it does to the text. -/
theorem join_map_pieces {g : String → String} (h : ∀ v ∈ f.values, g v = v) :
    String.join (f.pieces.map g) = (f.mapLiterals g).text := by
  rw [text_eq_join_pieces, pieces, pieces, List.map_append, List.map_flatMap, mapLiterals,
    List.flatMap_map]
  refine congrArg (fun texts => String.join (texts ++ [g f.tail])) ?_
  refine List.flatMap_congr fun p hp => ?_
  rw [List.map_cons, List.map_singleton, h p.2 (List.mem_map_of_mem hp)]

/-- What is found in literals only is found in the pieces. -/
theorem flatMap_pieces {g : String → List String} (h : ∀ v ∈ f.values, g v = []) :
    f.pieces.flatMap g = f.literals.flatMap g := by
  rw [pieces, literals, List.flatMap_append, List.flatMap_append, List.flatMap_assoc,
    List.flatMap_map]
  refine congrArg (· ++ _) (List.flatMap_congr fun p hp => ?_)
  rw [List.flatMap_cons, List.flatMap_singleton, h p.2 (List.mem_map_of_mem hp), List.append_nil]

/-- **A filling with inert values** is whole, has the placeholders of its literals, and keeps its
values as they are. -/
theorem of_inert (hliterals : ∀ literal ∈ f.literals, Whole '#' literal.toList)
    (hvalues : ∀ v ∈ f.values, Inert v) :
    Whole '#' f.text.toList ∧
      (placeholder.split f.text).contents.map (Renaming.contentAll f.renamings) =
        f.placeholders ∧
      marked f.text = f.sql := by
  have hpieces : ∀ piece ∈ f.pieces, Whole '#' piece.toList := by
    obtain ⟨hleads, htail⟩ := List.forall_mem_append.1 hliterals
    refine List.forall_mem_append.2 ⟨fun piece hpiece => ?_, htail⟩
    obtain ⟨p, hp, hpiece⟩ := List.mem_flatMap.1 hpiece
    rcases List.mem_cons.1 hpiece with rfl | hpiece
    · exact hleads _ (List.mem_map_of_mem hp)
    · rw [List.mem_singleton.1 hpiece]
      exact (hvalues _ (List.mem_map_of_mem hp)).whole
  obtain ⟨hwhole, hcontents, hreplace⟩ := whole_join hpieces
  rw [← text_eq_join_pieces] at hwhole hcontents hreplace
  refine ⟨hwhole, ?_, (hreplace _).trans ?_⟩
  · rw [hcontents, List.map_flatMap]
    refine flatMap_pieces fun v hv => ?_
    rw [(hvalues v hv).contents_eq, List.map_nil]
  · exact join_map_pieces fun v hv => (hvalues v hv).replace_eq _

end Filling

/-! ## Statements -/

namespace Source

variable {source : Source} {engine : Engine} {parameter : Value}

/-- The expansion of a source whose statement succeeds writes fillings of the template's texts. -/
theorem exists_fillings {st : Statement} (hst : source.statement engine parameter = .ok st) :
    ∃ fillings : List Filling,
      fillings.map Filling.emission = (source.emissions engine parameter).map Prod.fst ∧
      (∀ f ∈ fillings, f.literals ∈ source.template.cuts) ∧
      fillings.flatMap Filling.values = textsOf (source.steps engine parameter) := by
  obtain ⟨took, context, hexpand, -⟩ := stages_of_statement hst
  rw [expand, Template.applyTo_expand] at hexpand
  exact Template.exists_fillings (congrArg Prod.fst hexpand) rfl

/-- **Inert texts are text.** Where the literals of a template are whole and the substituted texts
inert, the SQL of a statement has the substituted texts as they are, and its mappings are those of
the placeholders of the literals, one for each time that they came out. -/
theorem substituted_texts_verbatim {st : Statement} (hshrink : source.shrink = false)
    (hst : source.statement engine parameter = .ok st)
    (hliterals : ∀ literals ∈ source.template.cuts, ∀ literal ∈ literals, Whole '#' literal.toList)
    (hvalues : ∀ v ∈ textsOf (source.steps engine parameter), Inert v) :
    ∃ fillings : List Filling,
      fillings.map Filling.emission = (source.emissions engine parameter).map Prod.fst ∧
      (∀ f ∈ fillings, f.literals ∈ source.template.cuts) ∧
      fillings.flatMap Filling.values = textsOf (source.steps engine parameter) ∧
      st.sql = String.join (fillings.map Filling.sql) ∧
      List.Forall₂ (fun content m => Mapping.ofContent source.schema content = .ok m)
        (fillings.flatMap Filling.placeholders) st.mappings := by
  obtain ⟨fillings, hemissions, hown, htexts⟩ := exists_fillings hst
  have hfilled (f : Filling) (hf : f ∈ fillings) := f.of_inert (hliterals _ (hown f hf))
    fun v hv => hvalues v (htexts ▸ List.mem_flatMap.2 ⟨f, hf, hv⟩)
  refine ⟨fillings, hemissions, hown, htexts, ?_, ?_⟩
  · have hsql : ∀ sql ∈ fillings.map (fun f => f.emission.sql), Whole '#' sql.toList :=
      List.forall_mem_map.2 fun f hf => (hfilled f hf).1.fragmentAll f.renamings
    have hfinal : (source.final engine parameter).sql =
        String.join (fillings.map fun f => f.emission.sql) := by
      have hsame : (source.emissions engine parameter).map (fun w => w.1.sql) =
          ((source.emissions engine parameter).map Prod.fst).map Emission.sql := by
        rw [List.map_map]
        rfl
      rw [sql_final, hsame, ← hemissions, List.map_map]
      rfl
    obtain ⟨took, context, hexpand, hprepared, -⟩ := stages_of_statement hst
    rw [expand, Template.applyTo_expand] at hexpand
    rw [hshrink, ← show source.final engine parameter = context from congrArg Prod.snd hexpand]
      at hprepared
    rw [show st.sql = marked (source.final engine parameter).sql from
      Prepared.sql_of_ofSql hprepared, hfinal, marked, (whole_join hsql).2.2, List.map_map]
    refine congrArg String.join (List.map_congr_left fun f hf => ?_)
    exact (marked_fragmentAll (hfilled f hf).1 f.renamings).trans (hfilled f hf).2.2
  · have hwhole : ∀ w ∈ source.emissions engine parameter, Whole '#' w.1.text.toList := by
      intro w hw
      have hmem : w.1 ∈ fillings.map Filling.emission := hemissions ▸ List.mem_map_of_mem hw
      obtain ⟨f, hf, heq⟩ := List.mem_map.1 hmem
      rw [← heq]
      exact (hfilled f hf).1
    have hplaceholders : (source.occurrences engine parameter).map Occurrence.renamed =
        fillings.flatMap Filling.placeholders := by
      rw [occurrences, renamed_occurrencesOf, ← hemissions, List.flatMap_map]
      exact List.flatMap_congr fun f hf => (hfilled f hf).2.1
    rw [← hplaceholders]
    exact List.forall₂_map_left_iff.2 (parameters_of_occurrences hshrink hst hwhole).1

end Source

/-- Texts with a closing brace and a backslash, in a loop with placeholders. -/
theorem substituted_texts_in_loop :
    let source : Source :=
      { template := .loop ⟨"xs", some "x", none, some "(", some ")", some ", "⟩
          [.text "$\x7bx\x7d = #\x7bx\x7d"] }
    let parameter : Value := .map [("xs", .list [.text "\x7da", .text "b\\c"])]
    ∃ st, source.statement Engine.paths parameter = .ok st ∧
      st.sql = "(\x7da = ?, b\\c = ?)" ∧ st.mappings.length = 2 ∧
      ∃ fillings : List Filling, fillings.flatMap Filling.values = ["\x7da", "b\\c"] ∧
        st.sql = String.join (fillings.map Filling.sql) ∧
        (fillings.flatMap Filling.placeholders).length = 2 := by
  intro source parameter
  have hsummary : (source.statement Engine.paths parameter).toOption.map
      (fun st => (st.sql, st.mappings.length)) = some ("(\x7da = ?, b\\c = ?)", 2) := by
    decide +kernel
  have hliterals : ∀ literals ∈ source.template.cuts, ∀ literal ∈ literals,
      Plain '#' literal.toList := by decide +kernel
  have htexts : textsOf (source.steps Engine.paths parameter) = ["\x7da", "b\\c"] := by
    decide +kernel
  cases hst : source.statement Engine.paths parameter with
  | error e => rw [hst] at hsummary; cases hsummary
  | ok st =>
    rw [hst] at hsummary
    obtain ⟨hsql, hmappings⟩ := Prod.mk.inj (Option.some.inj hsummary)
    obtain ⟨fillings, -, -, hvalues, hfilled, hplaceholders⟩ :=
      Source.substituted_texts_verbatim rfl hst
        (fun literals h literal h' =>
          (hliterals literals h literal h').whole (by decide) (by decide))
        (by rw [htexts]; decide +kernel)
    exact ⟨st, rfl, hsql, hmappings, fillings, hvalues.trans htexts, hfilled,
      hplaceholders.length_eq.trans hmappings⟩

/-- A substituted text that is a placeholder is bound: the template has none, the statement has
one. -/
theorem substituted_marker_is_bound :
    let source : Source := { template := .text "$\x7bv\x7d" }
    let parameter : Value := .map [("a", .int 7), ("v", .text "#\x7ba\x7d")]
    textsOf (source.steps Engine.paths parameter) = ["#\x7ba\x7d"] ∧
      (placeholder.split "$\x7bv\x7d").contents = [] ∧
      (source.statement Engine.paths parameter).toOption.map
          (fun st => (st.sql, st.mappings, st.parameters.map Value.toText)) =
        some ("?", [{ property := some "a" }], ["7"]) := by
  decide +kernel

end SqlTemplate
