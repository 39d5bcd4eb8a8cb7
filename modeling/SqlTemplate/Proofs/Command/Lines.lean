import Mathlib.Algebra.BigOperators.Group.List.Basic
import SqlTemplate.Command
import SqlTemplate.Proofs.Statement.Stages
import SqlTemplate.Proofs.Text.Cut
import SqlTemplate.Proofs.Value.Text

/-!
# The lines of a rendered statement

A statement is printed as its SQL with one comment for each parameter after it, which starts on a
line of its own with the number of the parameter. Names and values are put into the comments as they
are, so a line break in one of them goes on with a line that is no comment.

**Theorem (`rendered_lines_iff`).** A template that renders prints the SQL of the statement and a
comment for each parameter. Each of these comments is one line exactly if no parameter is shown
with a name that has a line break, and none has a line break in a text of its value, at any depth,
or in a key of a map.

`value_adds_line` is a value whose second line is no comment.

The pieces between line breaks are counted: there are as many as comments only if none of the
comments has a line break.
-/

namespace SqlTemplate

open Text (pieces)

/-- The lines of a text. -/
def Text.lines (text : String) : List (List Char) := pieces '\n' text.toList

/-- The name that a parameter is shown with. -/
def Mapping.shownName (m : Mapping) : String := (m.property.or m.expression).getD ""

namespace Command

open Text (lines)

/-- What the comment of a parameter starts with. -/
def commentStart (number : Nat) : String := "-- " ++ toString number ++ ": "

/-- The comment of a parameter. -/
def comment (number : Nat) (entry : Mapping × Value) : String :=
  commentStart number ++ entry.1.shownName ++ " = " ++ entry.2.toText

/-- The text is the SQL, with `count` lines after it, each of them the comment of the parameter
with its number. -/
def IsCommented (sql : String) (count : Nat) (text : String) : Prop :=
  ∃ comments, lines text = lines sql ++ comments ∧ comments.length = count ∧
    ∀ i, ∀ line ∈ comments[i]?, (commentStart (i + 1)).toList <+: line

variable {entries : List (Mapping × Value)} {number : Nat}

theorem getElem?_commentLines (number : Nat) (entries : List (Mapping × Value)) (i : Nat) :
    (commentLines number entries)[i]? = entries[i]?.map (comment (number + i)) := by
  induction entries generalizing number i with
  | nil => rfl
  | cons entry rest ih =>
    cases i with
    | zero => rfl
    | succ i =>
      rw [commentLines, List.getElem?_cons_succ, List.getElem?_cons_succ, ih, Nat.add_right_comm]
      rfl

theorem length_commentLines (number : Nat) (entries : List (Mapping × Value)) :
    (commentLines number entries).length = entries.length := by
  induction entries generalizing number with
  | nil => rfl
  | cons entry rest ih => rw [commentLines, List.length_cons, List.length_cons, ih]

/-- A comment has a line break where its name or a text of its value has one. -/
theorem newline_mem_comment_iff (number : Nat) (entry : Mapping × Value) :
    '\n' ∈ (comment number entry).toList ↔
      '\n' ∈ entry.1.shownName.toList ∨ ∃ s ∈ entry.2.texts, '\n' ∈ s.toList := by
  have hnewline : Text.isPlain '\n' = false := by decide
  have hstart : '\n' ∉ (commentStart number).toList := by
    have hdigits : '\n' ∉ Nat.toDigits 10 number :=
      Value.not_mem_of_isPlain hnewline (.toDigits number)
    simp [commentStart, hdigits]
  have hequals : '\n' ∉ " = ".toList := by decide
  rw [comment, String.toList_append, String.toList_append, String.toList_append, List.mem_append,
    List.mem_append, List.mem_append, or_iff_right hstart, or_iff_left hequals,
    Value.mem_toText_iff hnewline]

theorem forall_commentLines_iff (number : Nat) (entries : List (Mapping × Value)) :
    (∀ line ∈ commentLines number entries, '\n' ∉ line.toList) ↔
      ∀ entry ∈ entries, '\n' ∉ entry.1.shownName.toList ∧
        ∀ s ∈ entry.2.texts, '\n' ∉ s.toList := by
  induction entries generalizing number with
  | nil => simp [commentLines]
  | cons entry rest ih =>
    have hentry : '\n' ∉ (comment number entry).toList ↔ '\n' ∉ entry.1.shownName.toList ∧
        ∀ s ∈ entry.2.texts, '\n' ∉ s.toList := by
      rw [newline_mem_comment_iff, not_or, not_exists]
      simp only [not_and]
    rw [commentLines, List.forall_mem_cons, List.forall_mem_cons, ih, ← hentry]
    rfl

/-! ## Counting lines -/

theorem lines_intercalate (first : String) (rest : List String) :
    lines ("\n".intercalate (first :: rest)) = lines first ++ rest.flatMap lines := by
  rw [lines, String.toList_intercalate]
  induction rest generalizing first with
  | nil => simp [List.intercalate, lines]
  | cons next rest ih =>
    rw [List.map_cons, List.map_cons, List.intercalate_cons_cons, ← List.map_cons,
      List.append_assoc]
    exact (Text.pieces_append_separator '\n' first.toList _).trans (congrArg _ (ih next))

/-- There are as many lines as texts exactly if each text is one line. -/
theorem length_flatMap_lines_iff (texts : List String) :
    (texts.flatMap lines).length = texts.length ↔ ∀ t ∈ texts, '\n' ∉ t.toList := by
  have hlength : (texts.flatMap lines).length =
      (texts.map fun t => t.toList.count '\n').sum + texts.length := by
    simp [List.length_flatMap, lines, Text.length_pieces, List.sum_map_add]
  rw [hlength, Nat.add_eq_right, List.sum_eq_zero_iff_forall_eq_nat]
  simp [List.count_eq_zero]

theorem lines_of_not_mem {text : String} (h : '\n' ∉ text.toList) : lines text = [text.toList] :=
  Text.pieces_of_not_mem h

theorem flatMap_lines_of_not_mem {texts : List String} (h : ∀ t ∈ texts, '\n' ∉ t.toList) :
    texts.flatMap lines = texts.map String.toList := by
  rw [List.flatMap_congr fun t ht => lines_of_not_mem (h t ht)]
  exact List.flatMap_pure_eq_map ..

/-- **A statement is commented line by line** exactly if no comment has a line break. -/
theorem isCommented_statementText_iff {st : Statement}
    (hlength : st.mappings.length = st.parameters.length) :
    IsCommented st.sql st.parameters.length (statementText st) ↔
      ∀ entry ∈ st.mappings.zip st.parameters, '\n' ∉ entry.1.shownName.toList ∧
        ∀ s ∈ entry.2.texts, '\n' ∉ s.toList := by
  have hcount : (commentLines 1 (st.mappings.zip st.parameters)).length = st.parameters.length := by
    rw [length_commentLines, List.length_zip, hlength, Nat.min_self]
  rw [IsCommented, statementText, lines_intercalate, ← forall_commentLines_iff 1,
    ← length_flatMap_lines_iff, ← hcount]
  constructor
  · rintro ⟨comments, hcomments, hnumber, -⟩
    rw [List.append_cancel_left hcomments, hnumber]
  · intro hnumber
    refine ⟨_, rfl, hnumber, fun i line hline => ?_⟩
    rw [flatMap_lines_of_not_mem ((length_flatMap_lines_iff _).1 hnumber), List.getElem?_map,
      getElem?_commentLines, Nat.add_comm] at hline
    obtain ⟨text, htext, rfl⟩ := Option.map_eq_some_iff.1 hline
    obtain ⟨entry, -, rfl⟩ := Option.map_eq_some_iff.1 htext
    rw [comment, String.append_assoc, String.append_assoc, String.toList_append]
    exact List.prefix_append ..

/-- A template that renders has a statement, which is printed. -/
theorem statement_of_run {r : Request} {database : Option String} {shrink : Bool} {out : String}
    (haction : r.action = .render database shrink false) (hrun : run r = .ok out) :
    ∃ template filter parameter st, readTemplate r.template = .ok template ∧
      readFilter r.filter = .ok filter ∧ readParameter r.parameters = .ok parameter ∧
      Source.statement { template, filter, database, shrink } Engine.paths parameter = .ok st ∧
      out = statementText st := by
  obtain ⟨template, htemplate, hrun⟩ := exists_of_bind_eq_ok hrun
  obtain ⟨filter, hfilter, hrun⟩ := exists_of_bind_eq_ok hrun
  obtain ⟨parameter, hparameter, hrun⟩ := exists_of_bind_eq_ok hrun
  rw [haction] at hrun
  obtain ⟨st, hst, hrun⟩ := exists_of_bind_eq_ok hrun
  refine ⟨template, filter, parameter, st, htemplate, hfilter, hparameter, ?_, ?_⟩
  · unfold Except.mapError at hst
    split at hst
    · cases hst
    · next hstatement =>
      cases hst
      exact hstatement
  · cases hrun
    rfl

/-- **The lines of a rendered statement.** -/
theorem rendered_lines_iff {r : Request} {database : Option String} {shrink : Bool} {out : String}
    (haction : r.action = .render database shrink false) (hrun : run r = .ok out) :
    ∃ template filter parameter st, readTemplate r.template = .ok template ∧
      readFilter r.filter = .ok filter ∧ readParameter r.parameters = .ok parameter ∧
      Source.statement { template, filter, database, shrink } Engine.paths parameter = .ok st ∧
      st.mappings.length = st.parameters.length ∧ out = statementText st ∧
      (IsCommented st.sql st.parameters.length out ↔
        (∀ m ∈ st.mappings, '\n' ∉ m.shownName.toList) ∧
          ∀ v ∈ st.parameters, ∀ s ∈ v.texts, '\n' ∉ s.toList) := by
  obtain ⟨template, filter, parameter, st, htemplate, hfilter, hparameter, hst, rfl⟩ :=
    statement_of_run haction hrun
  have hlength : st.mappings.length = st.parameters.length := by
    obtain ⟨_, _, _, _, hvalues⟩ := Source.stages_of_statement hst
    exact hvalues.length_eq
  refine ⟨template, filter, parameter, st, htemplate, hfilter, hparameter, hst, hlength, rfl, ?_⟩
  have hmappings := List.map_fst_zip hlength.le
  have hparameters := List.map_snd_zip hlength.ge
  rw [isCommented_statementText_iff hlength]
  constructor
  · intro h
    refine ⟨fun m hm => ?_, fun v hv => ?_⟩
    · rw [← hmappings] at hm
      obtain ⟨entry, hentry, rfl⟩ := List.mem_map.1 hm
      exact (h entry hentry).1
    · rw [← hparameters] at hv
      obtain ⟨entry, hentry, rfl⟩ := List.mem_map.1 hv
      exact (h entry hentry).2
  · rintro ⟨hnames, htexts⟩ entry hentry
    obtain ⟨hm, hv⟩ := List.of_mem_zip hentry
    exact ⟨hnames _ hm, htexts _ hv⟩

/-- The request to render a template, with parameters in a file of their own. -/
def renderRequest (template parameters : String) : Request where
  template := ⟨"template.json", some template⟩
  parameters := some ⟨"params.json", some parameters⟩
  filter := none
  action := .render none false false

/-- A text, and a map in a list, after SQL of two lines. -/
theorem rendered_lines_of_two_parameters :
    let r := renderRequest "\x7b\"text\": \"SELECT #\x7ba\x7d,\\n #\x7bb\x7d\"\x7d"
      "\x7b\"a\": \"x\", \"b\": [1, \x7b\"k\": null\x7d]\x7d"
    let out := "SELECT ?,\n ?\n-- 1: a = x\n-- 2: b = [1, \x7bk=null\x7d]"
    r.action = .render none false false ∧ run r = .ok out ∧
      IsCommented "SELECT ?,\n ?" 2 out := by
  intro r out
  have hrun : run r = .ok out := by decide +kernel
  have hsummary : (do
      let template ← (readTemplate r.template).toOption
      let filter ← (readFilter r.filter).toOption
      let parameter ← (readParameter r.parameters).toOption
      let source : Source := { template, filter, database := none, shrink := false }
      let st ← (source.statement Engine.paths parameter).toOption
      return (st.sql, st.mappings.map Mapping.shownName, st.parameters.length,
        st.parameters.flatMap Value.texts)) =
      some ("SELECT ?,\n ?", ["a", "b"], 2, ["x", "k"]) := by decide +kernel
  obtain ⟨template, filter, parameter, st, htemplate, hfilter, hparameter, hst, -, -, hiff⟩ :=
    rendered_lines_iff rfl hrun
  simp only [htemplate, hfilter, hparameter, hst, Except.toOption, Option.bind_eq_bind,
    Option.bind_some, Option.pure_def, Option.some.injEq, Prod.mk.injEq] at hsummary
  obtain ⟨hsql, hnames, hcount, htexts⟩ := hsummary
  rw [← hsql, ← hcount]
  refine ⟨rfl, hrun, hiff.2 ⟨fun m hm => ?_, fun v hv s hs => ?_⟩⟩
  · have hname : m.shownName ∈ ["a", "b"] := hnames ▸ List.mem_map_of_mem hm
    exact (by decide : ∀ name ∈ ["a", "b"], '\n' ∉ name.toList) _ hname
  · have htext : s ∈ ["x", "k"] := htexts ▸ List.mem_flatMap_of_mem hv hs
    exact (by decide : ∀ text ∈ ["x", "k"], '\n' ∉ text.toList) _ htext

/-- **A value with a line break** adds a line that is no comment. -/
theorem value_adds_line :
    let r := renderRequest "\x7b\"text\": \"SELECT #\x7ba\x7d\"\x7d" "\x7b\"a\": \"x\\ny\"\x7d"
    let out := "SELECT ?\n-- 1: a = x\ny"
    run r = .ok out ∧ ¬ IsCommented "SELECT ?" 1 out := by
  intro r out
  refine ⟨by decide +kernel, ?_⟩
  rintro ⟨comments, hlines, hcount, -⟩
  have hlength := congrArg List.length hlines
  rw [List.length_append, hcount] at hlength
  exact absurd hlength (by decide +kernel)

end Command

end SqlTemplate
