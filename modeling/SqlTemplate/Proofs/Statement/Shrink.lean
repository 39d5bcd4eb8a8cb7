import SqlTemplate.Proofs.Placeholder.Squeeze
import SqlTemplate.Proofs.Span.Squeeze
import SqlTemplate.Proofs.Statement.Stages

/-!
# Statements with their white space shrunk

Shrinking comes between the expansion and the placeholders. It collapses all white space of the
expanded SQL, that of the placeholders included, so a quoted text with two spaces in an expression
has one space afterwards.

**Theorem (`Prepared.collapsed_of_shrunk`).** Shrinking commutes with cutting out the placeholders:
with it, a text has as many mappings as without it, and its SQL is the collapsed SQL without it.

**Theorem (`Source.shrunk_statement`).** A statement with shrinking has the collapsed SQL of the one
without, and as many mappings. If the texts of all placeholders are tidy, and no white space stands
in the placeholders but blanks, the mappings and the values are the same. Conversely, if the
mappings are the same, the texts in them are tidy.

The expanded text is the same with and without shrinking. Cutting it finds the squeezed contents
(`Split.contents_collapse`), and parsing a squeezed content finds the squeezed texts
(`Placeholder.parse_squeezed`), which are the texts themselves exactly if those are tidy.
-/

namespace SqlTemplate

open Text (collapse squeeze Tidy SpacesBlank)
open Placeholder (squeezedText squeezeEntries)

/-- The entries that the parser finds in a content. -/
def Placeholder.entriesOf (content : String) : List (String × String) :=
  match parse content with
  | .ok ph => ph.entries
  | .error _ => []

/-- A content of a placeholder that may be squeezed: its white space is blank, and all texts that
the parser finds in it are tidy. -/
structure TidyContent (content : String) : Prop where
  spaces : SpacesBlank content.toList
  texts : ∀ entry ∈ Placeholder.entriesOf content, Tidy entry.2.toList

instance (content : String) : Decidable (TidyContent content) :=
  decidable_of_iff
    (SpacesBlank content.toList ∧
      ∀ entry ∈ Placeholder.entriesOf content, Tidy entry.2.toList)
    ⟨fun h => ⟨h.1, h.2⟩, fun h => ⟨h.spaces, h.texts⟩⟩

/-! ## Mappings -/

namespace Mapping

/-- The texts of a mapping. -/
def texts (m : Mapping) : List String :=
  m.property.toList ++ m.expression.toList ++ m.valueType.toList ++ m.jdbcType.toList ++
    m.jdbcTypeName.toList ++ m.typeHandler.toList ++ m.resultMap.toList

/-- A mapping with the type that a schema declares, unless it has one. -/
def declared (schema : Option (Registry × String)) (m : Mapping) : Mapping :=
  { m with valueType := m.valueType.or (declaredType? schema m.property) }

/-- The texts of a mapping that its placeholder has: all but a type that a schema declares. -/
def writtenTexts (schema : Option (Registry × String)) (m : Mapping) : List String :=
  if m.valueType = declaredType? schema m.property then { m with valueType := none }.texts
  else m.texts

variable {content content' key value : String} {m m' : Mapping}
  {entries : List (String × String)} {schema : Option (Registry × String)}

/-- The keys that a placeholder may have. -/
def keys : List String :=
  [Placeholder.propertyKey, Placeholder.expressionKey, Placeholder.typeKey, "javaType",
    "jdbcTypeName", "mode", "numericScale", "typeHandler", "resultMap"]

theorem key_of_fill (h : fill content m key value = .ok m') : key ∈ keys := by
  by_contra hkey
  simp only [keys, List.mem_cons, List.not_mem_nil, or_false, not_or] at hkey
  simp [fill, hkey] at h

/-- How a field is filled depends on the content in its errors only. -/
theorem fill_of_fill (h : fill content m key value = .ok m') (content' : String) :
    fill content' m key value = .ok m' := by
  unfold fill at h ⊢
  dsimp only at h ⊢
  repeat' split at h
  all_goals simp_all

theorem texts_of_fill (h : fill content m key value = .ok m') :
    ∀ t ∈ m'.texts, t ∈ m.texts ∨ t = value := by
  unfold fill at h
  dsimp only at h
  repeat' split at h
  all_goals cases h
  all_goals
    simp only [texts, List.mem_append, Option.mem_toList, Option.some.injEq]
    grind

theorem foldlM_fill (h : entries.foldlM (fun m entry => fill content m entry.1 entry.2) m = .ok m')
    (content' : String) :
    entries.foldlM (fun m entry => fill content' m entry.1 entry.2) m = .ok m' := by
  induction entries generalizing m with
  | nil => exact h
  | cons entry rest ih =>
    rw [List.foldlM_cons] at h ⊢
    obtain ⟨next, hnext, h⟩ := exists_of_bind_eq_ok h
    rw [fill_of_fill hnext content']
    exact ih h

theorem ofContent_eq_ok_iff :
    ofContent schema content = .ok m ↔
      ∃ ph filled, Placeholder.parse content = .ok ph ∧
        ph.entries.foldlM (fun m entry => fill content m entry.1 entry.2) {} = .ok filled ∧
        m = filled.declared schema := by
  rw [ofContent]
  cases Placeholder.parse content with
  | error position => simp
  | ok ph =>
    simp only [Except.ok.injEq, exists_and_left, exists_eq_left']
    rw [bind_eq_ok_iff]
    simp only [pure, Except.pure, Except.ok.injEq, @eq_comm _ m]
    rfl

/-- A schema adds nothing to the texts that are written. -/
theorem mem_texts_of_written {t : String} {filled : Mapping}
    (h : t ∈ (filled.declared schema).writtenTexts schema) : t ∈ filled.texts := by
  rw [writtenTexts, declared] at h
  dsimp only at h
  by_cases hdeclared : filled.valueType.or (declaredType? schema filled.property) =
      declaredType? schema filled.property
  · rw [if_pos hdeclared] at h
    simp only [texts, List.mem_append] at h ⊢
    grind
  · rw [if_neg hdeclared] at h
    cases htype : filled.valueType with
    | none => exact absurd (by rw [htype, Option.none_or]) hdeclared
    | some type =>
      rw [htype, Option.some_or, ← htype] at h
      exact h

/-- The texts of a mapping are pieces of the content of its placeholder. -/
theorem texts_isInfix (h : ofContent schema content = .ok m) :
    ∀ t ∈ m.writtenTexts schema, t.toList <:+: content.toList := by
  obtain ⟨ph, filled, hparse, hfilled, rfl⟩ := ofContent_eq_ok_iff.1 h
  have hpieces := Placeholder.piecesOf_parse hparse
  have hinfix : ∀ t ∈ filled.texts, t.toList <:+: content.toList := by
    refine invariant_of_foldlM_eq_ok (fun m => ∀ t ∈ m.texts, t.toList <:+: content.toList) hfilled
      nofun ?_
    intro entry hentry before after hfill hbefore t ht
    rcases texts_of_fill hfill t ht with ht | rfl
    · exact hbefore t ht
    · exact hpieces entry hentry
  exact fun t ht => hinfix t (mem_texts_of_written ht)

/-- **The mapping of a squeezed content** is the one of the content, if its texts are tidy. -/
theorem ofContent_squeezed (h : ofContent schema content = .ok m) (htidy : TidyContent content) :
    ofContent schema (squeezedText content) = .ok m := by
  obtain ⟨ph, filled, hparse, hfilled, rfl⟩ := ofContent_eq_ok_iff.1 h
  have hkeysTidy : ∀ k ∈ keys, squeezedText k = k := by decide
  have hkeys : ph.TidyKeys := by
    intro k hk
    obtain ⟨entry, hentry, rfl⟩ := List.mem_map.1 hk
    obtain ⟨before, after, hfill⟩ := exists_of_foldlM_eq_ok hfilled entry hentry
    exact Placeholder.squeezedText_eq_self_iff.1 (hkeysTidy entry.1 (key_of_fill hfill))
  have hentries : squeezeEntries ph.entries = ph.entries := by
    have htexts := htidy.texts
    rw [Placeholder.entriesOf, hparse] at htexts
    refine (List.map_congr_left fun entry hentry => ?_).trans (List.map_id _)
    rw [Placeholder.squeezedText_eq_self_iff.2 (htexts entry hentry)]
    rfl
  have hsqueezed := Placeholder.parse_squeezed htidy.spaces hparse hkeys
  rw [hentries] at hsqueezed
  exact ofContent_eq_ok_iff.2 ⟨ph, filled, hsqueezed, foldlM_fill hfilled _, rfl⟩

/-- The mapping of a squeezed content has tidy texts only. -/
theorem tidy_of_ofContent_squeezed (h : ofContent schema (squeezedText content) = .ok m) :
    ∀ t ∈ m.writtenTexts schema, Tidy t.toList := by
  intro t ht
  have hinfix := texts_isInfix h t ht
  rw [squeezedText, String.toList_ofList] at hinfix
  exact (Text.tidy_squeeze false content.toList).of_isInfix hinfix

end Mapping

/-! ## Statements -/

namespace Prepared

variable {schema : Option (Registry × String)} {sql : String} {prepared : Prepared}

/-- A text whose white space is shrunk has the squeezed placeholders and the collapsed SQL. -/
theorem ofSql_shrunk_eq_ok_iff :
    ofSql schema true sql = .ok prepared ↔
      prepared.sql =
          String.ofList (collapse (Markers.placeholder.replace (fun _ => "?") sql).toList) ∧
        List.Forall₂ (fun content m => Mapping.ofContent schema (squeezedText content) = .ok m)
          (Markers.placeholder.split sql).contents prepared.mappings := by
  have hmark : ∀ c ∈ "?".toList, Text.isSpace c = false := List.forall_mem_singleton.2 (by decide)
  have hcut : (Markers.placeholder.split (String.ofList (collapse sql.toList))) =
      Split.ofChars Markers.placeholder (collapse sql.toList) := by
    rw [Markers.split, String.toList_ofList]
  have hcontents : (Split.ofChars Markers.placeholder (collapse sql.toList)).contents =
      (Markers.placeholder.split sql).contents.map squeezedText :=
    Split.contents_collapse (by decide) sql.toList
  have hjoin : ((Split.ofChars Markers.placeholder (collapse sql.toList)).join fun _ => "?") =
      String.ofList (collapse (Markers.placeholder.replace (fun _ => "?") sql).toList) := by
    rw [← String.toList_inj, String.toList_ofList]
    exact Split.join_collapse (by decide) hmark (by decide) sql.toList
  rw [ofSql, bind_eq_ok_iff]
  simp only [if_true, hcut, hcontents, hjoin, pure, Except.pure, Except.ok.injEq]
  constructor
  · rintro ⟨mappings, hmappings, rfl⟩
    exact ⟨rfl, List.forall₂_map_left_iff.1 (forall₂_of_mapM_eq_ok hmappings)⟩
  · rintro ⟨hsql, hmappings⟩
    refine ⟨prepared.mappings, mapM_eq_ok_of_forall₂ (List.forall₂_map_left_iff.2 hmappings), ?_⟩
    rw [← hsql]

/-- **Shrinking commutes with cutting out the placeholders.** The spans of the collapsed text are
those of the text, with their contents squeezed. So if a text is prepared both ways, the SQL with
shrinking is the collapsed SQL without it, which nothing shrinks any further, and there is a mapping
for each mapping: that of the squeezed content. -/
theorem collapsed_of_shrunk {plain shrunk : Prepared} (hplain : ofSql schema false sql = .ok plain)
    (hshrunk : ofSql schema true sql = .ok shrunk) :
    let contents := (Markers.placeholder.split sql).contents
    shrunk.mappings.length = plain.mappings.length ∧
      shrunk.sql.toList = [' '].intercalate (Text.words plain.sql.toList) ∧
      collapse shrunk.sql.toList = shrunk.sql.toList ∧
      (Markers.placeholder.split (String.ofList (collapse sql.toList))).contents =
        contents.map squeezedText ∧
      List.Forall₂ (fun content m => Mapping.ofContent schema content = .ok m)
        contents plain.mappings ∧
      List.Forall₂ (fun content m => Mapping.ofContent schema (squeezedText content) = .ok m)
        contents shrunk.mappings := by
  intro contents
  obtain ⟨hsql, hsqueezed⟩ := ofSql_shrunk_eq_ok_iff.1 hshrunk
  have hmappings := mappings_of_ofSql hplain
  have hcollapsed : shrunk.sql.toList = collapse plain.sql.toList := by
    rw [hsql, sql_of_ofSql hplain, String.toList_ofList]
  have hcut : (Markers.placeholder.split (String.ofList (collapse sql.toList))).contents =
      contents.map squeezedText := by
    rw [Markers.split, String.toList_ofList]
    exact Split.contents_collapse (by decide) sql.toList
  refine ⟨hsqueezed.length_eq.symm.trans hmappings.length_eq, hcollapsed, ?_, hcut, hmappings,
    hsqueezed⟩
  rw [hcollapsed, Text.collapse_collapse]

/-- White space at the ends, around an escaped marker, in placeholders, beside an escaped brace and
after a marker that nothing closes. -/
theorem collapsed_of_shrunk_in_places :
    let sql :=
      "  SELECT\t#\x7b a ,\n mode = IN \x7d  \\#\x7bx\x7d  #\x7b b\\\x7d c \x7d \u00a0 #\x7b  d "
    ∃ plain shrunk, ofSql none false sql = .ok plain ∧ ofSql none true sql = .ok shrunk ∧
      shrunk.mappings.length = plain.mappings.length ∧
      plain.sql = "  SELECT\t?  #\x7bx\x7d  ? \u00a0 #\x7b  d " ∧
      shrunk.sql.toList = [' '].intercalate (Text.words plain.sql.toList) ∧
      shrunk.sql = "SELECT ? #\x7bx\x7d ? #\x7b d" ∧
      collapse shrunk.sql.toList = shrunk.sql.toList := by
  intro sql
  let mappings : List Mapping := [{ property := some "a" }, { property := some "b\x7d c" }]
  have hplain : ofSql none false sql =
      .ok ⟨"  SELECT\t?  #\x7bx\x7d  ? \u00a0 #\x7b  d ", mappings⟩ := by
    decide +kernel
  have hshrunk : ofSql none true sql = .ok ⟨"SELECT ? #\x7bx\x7d ? #\x7b d", mappings⟩ := by
    decide +kernel
  obtain ⟨hlength, hsql, hfixed, -⟩ := collapsed_of_shrunk hplain hshrunk
  exact ⟨_, _, hplain, hshrunk, hlength, rfl, hsql, rfl, hfixed⟩

end Prepared

namespace Source

variable {source : Source} {engine : Engine} {parameter : Value} {st st' : Statement}

/-- A source with shrinking. -/
def shrunk (source : Source) : Source := { source with shrink := true }

/-- The contents of the placeholders in the SQL that a source expands to. -/
def contents (source : Source) (engine : Engine) (parameter : Value) : List String :=
  (Markers.placeholder.split (source.expand engine parameter).2.sql).contents

/-- The mappings with shrinking are those of the squeezed contents. -/
theorem stages_of_shrunk (h : source.shrunk.statement engine parameter = .ok st') :
    ∃ took context, source.expand engine parameter = (.ok took, context) ∧
      st'.sql =
        String.ofList (collapse (Markers.placeholder.replace (fun _ => "?") context.sql).toList) ∧
      List.Forall₂ (fun content m => Mapping.ofContent source.schema (squeezedText content) = .ok m)
        (source.contents engine parameter) st'.mappings ∧
      List.Forall₂ (fun m value => Statement.value engine context.bindings m = .ok value)
        st'.mappings st'.parameters := by
  obtain ⟨took, context, hexpand, hprepared, hvalues⟩ := stages_of_statement h
  obtain ⟨hsql, hmappings⟩ := Prepared.ofSql_shrunk_eq_ok_iff.1 hprepared
  have hcontents : source.contents engine parameter =
      (Markers.placeholder.split context.sql).contents := by
    rw [contents, show source.expand engine parameter = (.ok took, context) from hexpand]
  rw [hcontents]
  exact ⟨took, context, hexpand, hsql, hmappings, hvalues⟩

/-- **Shrinking the white space of a statement.** A statement with shrinking has the collapsed SQL
and as many mappings as the one without; if they are the same ones, their values are the same, and
their texts are tidy. If all contents are tidy, there is such a statement. -/
theorem shrunk_statement (hshrink : source.shrink = false)
    (h : source.statement engine parameter = .ok st) :
    (∀ st', source.shrunk.statement engine parameter = .ok st' →
      st'.sql = String.ofList (collapse st.sql.toList) ∧
        st'.mappings.length = st.mappings.length ∧
        (st'.mappings = st.mappings →
          st'.parameters = st.parameters ∧
            ∀ m ∈ st.mappings, ∀ t ∈ m.writtenTexts source.schema, Tidy t.toList)) ∧
      ((∀ content ∈ source.contents engine parameter, TidyContent content) →
        source.shrunk.statement engine parameter =
          .ok { st with sql := String.ofList (collapse st.sql.toList) }) := by
  obtain ⟨took, context, hexpand, hprepared, hvalues⟩ := stages_of_statement h
  rw [hshrink] at hprepared
  have hsql : st.sql = Markers.placeholder.replace (fun _ => "?") context.sql :=
    Prepared.sql_of_ofSql hprepared
  have hmappings : List.Forall₂ (fun content m => Mapping.ofContent source.schema content = .ok m)
      (source.contents engine parameter) st.mappings := by
    rw [contents, hexpand]
    exact Prepared.mappings_of_ofSql hprepared
  constructor
  · intro st' h'
    obtain ⟨took', context', hexpand', hsql', hmappings', hvalues'⟩ := stages_of_shrunk h'
    cases hexpand.symm.trans hexpand'
    refine ⟨by rw [hsql', hsql], hmappings'.length_eq.symm.trans hmappings.length_eq, ?_⟩
    intro hsame
    rw [hsame] at hmappings' hvalues'
    have hread := mapM_eq_ok_of_forall₂ hvalues
    rw [mapM_eq_ok_of_forall₂ hvalues'] at hread
    exact ⟨Except.ok.inj hread, forall_of_forall₂ hmappings' fun content m =>
      Mapping.tidy_of_ofContent_squeezed⟩
  · intro htidy
    refine statement_of_stages hexpand ?_ hvalues
    refine Prepared.ofSql_shrunk_eq_ok_iff.2 ⟨by rw [hsql], ?_⟩
    have hcontents : source.contents engine parameter =
        (Markers.placeholder.split context.sql).contents := by
      rw [contents, hexpand]
    rw [← hcontents]
    refine ((List.forall₂_and_left _ _).2 ⟨htidy, hmappings⟩).imp fun content m hm => ?_
    exact Mapping.ofContent_squeezed hm.2 hm.1

/-- A statement on three lines, with spaces in its placeholder. -/
theorem shrunk_statement_of_lines :
    let source : Source :=
      { template := .text "SELECT *\n  FROM t\n WHERE a = #\x7b a , mode = IN \x7d" }
    let parameter : Value := .map [("a", .int 7)]
    ∃ st, source.statement Engine.paths parameter = .ok st ∧
      (∀ content ∈ source.contents Engine.paths parameter, TidyContent content) ∧
      st.mappings = [{ property := some "a" }] ∧
      source.shrunk.statement Engine.paths parameter =
        .ok { st with sql := "SELECT * FROM t WHERE a = ?" } := by
  intro source parameter
  have hsummary : (source.statement Engine.paths parameter).toOption.map
      (fun st => (String.ofList (collapse st.sql.toList), st.mappings)) =
        some ("SELECT * FROM t WHERE a = ?", [{ property := some "a" }]) := by
    decide +kernel
  have htidy : ∀ content ∈ source.contents Engine.paths parameter, TidyContent content := by
    decide +kernel
  cases hst : source.statement Engine.paths parameter with
  | error e => rw [hst] at hsummary; cases hsummary
  | ok st =>
    rw [hst] at hsummary
    obtain ⟨hsql, hmappings⟩ := Prod.mk.inj (Option.some.inj hsummary)
    refine ⟨st, rfl, htidy, hmappings, ?_⟩
    rw [← hsql]
    exact (shrunk_statement rfl hst).2 htidy

/-- **Texts that are not tidy.** The two spaces in a quoted text become one, which changes the value
that is bound; and a name that is all white space is no name any more. -/
theorem shrinking_changes_placeholders :
    let quoted : Source := { template := .text "#\x7b(x == 'a  b')\x7d" }
    let parameter : Value := .map [("x", .text "a  b")]
    let nameless : Source := { template := .text "#\x7b\u00a0\x7d" }
    let summary (source : Source) (parameter : Value) :=
      (source.statement Engine.paths parameter).toOption.map fun st =>
        (st.sql, st.mappings, st.parameters.map Value.toText)
    summary quoted parameter =
        some ("?", [{ expression := some "x == 'a  b'" }], ["true"]) ∧
      summary quoted.shrunk parameter =
        some ("?", [{ expression := some "x == 'a b'" }], ["false"]) ∧
      summary nameless (.int 1) = some ("?", [{ property := some "\u00a0" }], ["1"]) ∧
      summary nameless.shrunk (.int 1) = none := by
  decide +kernel

end Source

end SqlTemplate
