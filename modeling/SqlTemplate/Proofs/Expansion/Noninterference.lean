import SqlTemplate.Proofs.Expansion.Record
import SqlTemplate.Proofs.Statement.Stages

/-!
# Values do not influence the SQL

What a value can do to the SQL of a template goes through three doors: it decides a test, it is a
collection of some size, or it is the text of a substitution. The `choices` of an expansion are
what went through these doors, each in its own sequence.

**Theorem (`same_choices_same_statement`).** Two expansions of a template, with any parameters,
engines and filters, that succeed with the same choices write the same SQL and take the same
numbers; their statements have the same SQL and the same mappings.

The proof runs both expansions in lockstep. `Alike` relates their contexts: they have the same SQL,
number and layers, and any bindings. `Lockstep` relates two programs; it lets the steps of each
be followed by any others, so that the three sequences are used up together from the front.
-/

namespace SqlTemplate

/-! ## Choices -/

/-- The outcomes of the tests. -/
def testsOf (steps : List Step) : List Bool :=
  steps.filterMap fun step => match step with
    | .test holds => some holds
    | _ => none

/-- The sizes of the collections. -/
def countsOf (steps : List Step) : List Nat :=
  steps.filterMap fun step => match step with
    | .count size => some size
    | _ => none

/-- The texts computed for substitutions. -/
def textsOf (steps : List Step) : List String :=
  steps.filterMap fun step => match step with
    | .substitute _ text => some text
    | _ => none

/-- Two lists of steps with the same tests, sizes and texts, each in the same order. -/
structure SameChoices (steps steps' : List Step) : Prop where
  tests : testsOf steps = testsOf steps'
  counts : countsOf steps = countsOf steps'
  texts : textsOf steps = textsOf steps'

/-- Whether a step is no choice. -/
def Step.isSilent : Step → Bool
  | test _ | count _ | substitute _ _ => false
  | _ => true

namespace SameChoices

variable {steps steps' : List Step}

theorem of_cons_left {step : Step} (hs : step.isSilent) (h : SameChoices (step :: steps) steps') :
    SameChoices steps steps' := by
  cases step with
  | test | count | substitute => cases hs
  | bind | write | enter | leave | unbind => exact ⟨h.tests, h.counts, h.texts⟩

theorem of_cons_right {step : Step} (hs : step.isSilent) (h : SameChoices steps (step :: steps')) :
    SameChoices steps steps' := by
  cases step with
  | test | count | substitute => cases hs
  | bind | write | enter | leave | unbind => exact ⟨h.tests, h.counts, h.texts⟩

theorem of_test {holds holds' : Bool}
    (h : SameChoices (.test holds :: steps) (.test holds' :: steps')) :
    holds = holds' ∧ SameChoices steps steps' := by
  obtain ⟨heq, htests⟩ := List.cons.inj h.tests
  exact ⟨heq, htests, h.counts, h.texts⟩

theorem of_count {size size' : Nat}
    (h : SameChoices (.count size :: steps) (.count size' :: steps')) :
    size = size' ∧ SameChoices steps steps' := by
  obtain ⟨heq, hcounts⟩ := List.cons.inj h.counts
  exact ⟨heq, h.tests, hcounts, h.texts⟩

theorem of_substitute {expression expression' text text' : String}
    (h : SameChoices (.substitute expression text :: steps)
      (.substitute expression' text' :: steps')) :
    text = text' ∧ SameChoices steps steps' := by
  obtain ⟨heq, htexts⟩ := List.cons.inj h.texts
  exact ⟨heq, h.tests, h.counts, htexts⟩

end SameChoices

/-! ## Contexts that differ in their bindings -/

/-- Contexts with the same SQL, number and layers. -/
structure Alike (c d : Context) : Prop where
  sql : c.sql = d.sql
  next : c.next = d.next
  layers : c.layers = d.layers

namespace Alike

variable {c d : Context}

theorem write (h : Alike c d) (text : String) : Alike (c.append text) (d.append text) := by
  obtain ⟨hsql, hnext, hlayers⟩ := h
  constructor
  · simp only [Context.append, hsql, hlayers]
  · exact hnext
  · simp only [Context.append, hlayers]

theorem enter (h : Alike c d) (l : Loop) (separator : String) (element element' : Value × Value) :
    Alike (c.enter l separator element) (d.enter l separator element') := by
  obtain ⟨hsql, hnext, hlayers⟩ := h
  constructor
  · rw [Context.enter_sql, Context.enter_sql, hsql]
  · rw [Context.enter_next, Context.enter_next, hnext]
  · rw [Context.enter_layers, Context.enter_layers, hnext, hlayers]

theorem leave (h : Alike c d) : Alike c.leave d.leave :=
  ⟨h.sql, h.next, congrArg (List.drop 2) h.layers⟩

end Alike

/-! ## Two programs in lockstep -/

variable {α β γ δ : Type}

/-- From contexts that are alike, whenever both programs succeed and their choices begin the same
lists, they use up the same choices and end alike, with related results. -/
def Lockstep (related : α → β → Prop) (p : Recorded α) (q : Recorded β) : Prop :=
  ∀ c d, Alike c d → ∀ a b, (p c).result = .ok a → (q d).result = .ok b →
    ∀ rest rest', SameChoices ((p c).steps ++ rest) ((q d).steps ++ rest') →
      related a b ∧ SameChoices rest rest' ∧ Alike (replay (p c).steps c) (replay (q d).steps d)

namespace Lockstep

variable {related : α → β → Prop} {p : Recorded α} {q : Recorded β}

theorem pure {a : α} {b : β} (h : related a b) :
    Lockstep related (Pure.pure a) (Pure.pure b) := by
  intro c d hcd a' b' ha hb rest rest' hsame
  cases ha
  cases hb
  exact ⟨h, hsame, hcd⟩

theorem ask (question : Scope → Except Error α) (question' : Scope → Except Error β) :
    Lockstep (fun _ _ => True) (Recorded.ask question) (Recorded.ask question') :=
  fun _ _ hcd _ _ _ _ _ _ hsame => ⟨trivial, hsame, hcd⟩

theorem bind {further : γ → δ → Prop} {next : α → Recorded γ} {next' : β → Recorded δ}
    (h : Lockstep related p q)
    (hnext : ∀ a b, related a b → Lockstep further (next a) (next' b)) :
    Lockstep further (p >>= next) (q >>= next') := by
  intro c d hcd x y hx hy rest rest' hsame
  obtain ⟨a, ha, hx⟩ := Recorded.bind_eq_ok hx
  obtain ⟨b, hb, hy⟩ := Recorded.bind_eq_ok hy
  rw [Recorded.bind_of_ok ha, Recorded.bind_of_ok hb] at hsame ⊢
  dsimp only at hsame ⊢
  rw [List.append_assoc, List.append_assoc] at hsame
  obtain ⟨hab, hsame, hcd⟩ := h c d hcd a b ha hb _ _ hsame
  rw [replay_append, replay_append]
  exact hnext a b hab _ _ hcd x y hx hy rest rest' hsame

/-- Steps that are no choices and keep contexts alike. -/
theorem take {step step' : Step} (hs : step.isSilent) (hs' : step'.isSilent)
    (h : ∀ c d, Alike c d → Alike (step.apply c) (step'.apply d)) :
    Lockstep (fun _ _ => True) (Recorded.take step) (Recorded.take step') := by
  intro c d hcd a b _ _ rest rest' hsame
  exact ⟨trivial, (hsame.of_cons_left hs).of_cons_right hs', h c d hcd⟩

theorem write (text : String) :
    Lockstep (fun _ _ => True) (Recorded.take (.write text)) (Recorded.take (.write text)) :=
  take rfl rfl fun _ _ h => h.write text

theorem unbind (name : String) :
    Lockstep (fun _ _ => True) (Recorded.take (.unbind name)) (Recorded.take (.unbind name)) :=
  take rfl rfl fun _ _ h => ⟨h.sql, h.next, h.layers⟩

theorem recordOptional {step : String → Step}
    (h : ∀ text, Lockstep (fun _ _ => True) (Recorded.take (step text)) (Recorded.take (step text)))
    (text : Option String) :
    Lockstep (fun _ _ => True) (Loop.recordOptional step text) (Loop.recordOptional step text) := by
  cases text with
  | none => exact pure trivial
  | some text => exact h text

/-- A binding on one side only. -/
theorem bind_left {name : String} {value : Value} (h : Lockstep related p q) :
    Lockstep related
      (do
        Recorded.take (.bind name value)
        p) q := by
  intro c d hcd a b ha hb rest rest' hsame
  refine h (c.bind name value) d ⟨hcd.sql, hcd.next, hcd.layers⟩ a b ha hb rest rest' ?_
  exact hsame.of_cons_left rfl

theorem bind_right {name : String} {value : Value} (h : Lockstep related p q) :
    Lockstep related p
      (do
        Recorded.take (.bind name value)
        q) := by
  intro c d hcd a b ha hb rest rest' hsame
  refine h c (d.bind name value) ⟨hcd.sql, hcd.next, hcd.layers⟩ a b ha hb rest rest' ?_
  exact hsame.of_cons_right rfl

/-- Only the branch that does not fail counts. -/
theorem guard {passes passes' : Bool} {e e' : Error} (h : Lockstep related p q) :
    Lockstep related (if passes then p else Recorded.ofExcept (.error e))
      (if passes' then q else Recorded.ofExcept (.error e')) := by
  intro c d hcd a b ha hb
  cases passes with
  | false => cases ha
  | true =>
    cases passes' with
    | false => cases hb
    | true => exact h c d hcd a b ha hb

/-- Iterations that end alike have both written something not blank, or neither has. -/
theorem closing {p q : Recorded Unit} (h : Lockstep (fun _ _ => True) p q) :
    Lockstep Eq p.closing q.closing := by
  intro c d hcd a b ha hb rest rest' hsame
  rw [Recorded.closing] at ha hb hsame ⊢
  rw [Recorded.closing] at hsame ⊢
  dsimp only at ha hb hsame ⊢
  cases hp : (p c).result with
  | error e => rw [hp] at ha; cases ha
  | ok x =>
    cases hq : (q d).result with
    | error e => rw [hq] at hb; cases hb
    | ok y =>
      rw [hp] at ha
      rw [hq] at hb
      rw [List.append_assoc, List.append_assoc] at hsame
      obtain ⟨-, hsame, hcd⟩ := h c d hcd x y hp hq _ _ hsame
      refine ⟨?_, (hsame.of_cons_left rfl).of_cons_right rfl, ?_⟩
      · cases ha
        cases hb
        rw [hcd.layers]
      · rw [replay_append, replay_append]
        exact hcd.leave

/-! ## Templates in lockstep -/

variable (s s' : Settings)

theorem recordSpans (spans : List Span) :
    Lockstep Eq (s.recordSpans spans) (s'.recordSpans spans) := by
  induction spans with
  | nil => exact pure rfl
  | cons span rest ih =>
    refine (ask _ _).bind fun value value' _ => ?_
    have htext : Lockstep (fun _ _ => value.substitution = value'.substitution)
        (Recorded.take (.substitute (String.ofList span.content) value.substitution))
        (Recorded.take (.substitute (String.ofList span.content) value'.substitution)) :=
      fun c d hcd _ _ _ _ _ _ hsame => ⟨hsame.of_substitute.1, hsame.of_substitute.2, hcd⟩
    refine htext.bind fun _ _ heq => ?_
    exact guard (ih.bind fun texts texts' htexts => pure (by rw [heq, htexts]))

theorem recordSubstituted (split : Split) :
    Lockstep (fun _ _ => True) (Template.recordSubstituted s split)
      (Template.recordSubstituted s' split) := by
  refine (recordSpans s s' split.spans).bind fun texts texts' heq => ?_
  rw [heq]
  exact write _

theorem recordText (text : String) :
    Lockstep (fun _ _ => True) (Template.recordText s text) (Template.recordText s' text) := by
  have h := recordSubstituted s s' (Markers.substitution.split text)
  rw [Template.recordText, Template.recordText]
  split
  · -- Each side binds its own parameter, or does not.
    intro c d
    rw [Recorded.look_bind_apply, Recorded.look_bind_apply]
    dsimp only
    split
    · split
      · exact h.bind_left.bind_right c d
      · exact h.bind_left c d
    · split
      · exact h.bind_right c d
      · exact h c d
  · exact write text

variable {s s'} {body body' : Recorded Unit}

theorem recordElement (l : Loop) (h : Lockstep (fun _ _ => True) body body') (isFirst : Bool)
    (element element' : Value × Value) :
    Lockstep Eq (l.recordElement body isFirst element)
      (l.recordElement body' isFirst element') := by
  rw [Loop.recordElement, Loop.recordElement]
  refine (take rfl rfl fun c d hcd => ?_).bind fun _ _ _ => closing h
  exact hcd.enter l _ element element'

theorem recordElements (l : Loop) (h : Lockstep (fun _ _ => True) body body') (isFirst : Bool)
    (elements elements' : List (Value × Value)) (hlength : elements.length = elements'.length) :
    Lockstep (fun _ _ => True) (l.recordElements body isFirst elements)
      (l.recordElements body' isFirst elements') := by
  induction elements generalizing isFirst elements' with
  | nil =>
    cases elements' with
    | nil => exact pure trivial
    | cons element' rest' => cases hlength
  | cons element rest ih =>
    cases elements' with
    | nil => cases hlength
    | cons element' rest' =>
      refine (recordElement l h isFirst element element').bind fun written written' heq => ?_
      rw [heq]
      exact ih _ rest' (Nat.succ.inj hlength)

theorem recordLoop (l : Loop) (h : Lockstep (fun _ _ => True) body body') :
    Lockstep (fun _ _ => True) (l.record s body) (l.record s' body') := by
  refine (ask _ _).bind fun collection collection' _ => ?_
  have hcount : Lockstep (fun _ _ => collection.size = collection'.size)
      (Recorded.take (.count collection.size)) (Recorded.take (.count collection'.size)) :=
    fun c d hcd _ _ _ _ _ _ hsame => ⟨hsame.of_count.1, hsame.of_count.2, hcd⟩
  refine hcount.bind fun _ _ heq => ?_
  rw [heq]
  split
  · exact pure trivial
  · refine (recordOptional write l.opening).bind fun _ _ _ => ?_
    refine (recordElements l h true collection.elements collection'.elements ?_).bind
      fun _ _ _ => ?_
    · rw [Collection.length_elements, Collection.length_elements, heq]
    · refine (recordOptional write l.closing).bind fun _ _ _ => ?_
      exact (recordOptional unbind l.item).bind fun _ _ _ => recordOptional unbind l.index

mutual

theorem record (s s' : Settings) (t : Template) :
    Lockstep Eq (t.record s) (t.record s') := by
  cases t with
  | text text =>
    rw [Template.record, Template.record]
    exact (recordText s s' text).bind fun _ _ _ => pure rfl
  | mixed parts =>
    rw [Template.record, Template.record]
    exact (recordAll s s' parts).bind fun _ _ _ => pure rfl
  | condition test contents =>
    rw [Template.record, Template.record]
    refine (ask _ _).bind fun holds holds' _ => ?_
    have htest : Lockstep (fun _ _ => holds = holds') (Recorded.take (.test holds))
        (Recorded.take (.test holds')) :=
      fun c d hcd _ _ _ _ _ _ hsame => ⟨hsame.of_test.1, hsame.of_test.2, hcd⟩
    refine htest.bind fun _ _ heq => ?_
    rw [heq]
    split
    · exact (recordAll s s' contents).bind fun _ _ _ => pure rfl
    · exact pure rfl
  | loop l contents =>
    rw [Template.record, Template.record]
    exact (recordLoop l (recordAll s s' contents)).bind fun _ _ _ => pure rfl

theorem recordAll (s s' : Settings) (ts : List Template) :
    Lockstep (fun _ _ => True) (Template.recordAll s ts) (Template.recordAll s' ts) := by
  cases ts with
  | nil => exact pure trivial
  | cons part rest =>
    rw [Template.recordAll, Template.recordAll]
    exact (record s s' part).bind fun _ _ _ => recordAll s s' rest

end

end Lockstep

/-! ## Statements -/

/-- **Values do not influence the SQL.** Of two expansions that succeed with the same choices, only
the bindings can differ; of their statements, only the parameters. -/
theorem same_choices_same_statement (t : Template) (s s' : Settings) (parameter parameter' : Value)
    (database : Option String)
    (hsame : SameChoices (t.record s (Context.ofParameter parameter database)).steps
      (t.record s' (Context.ofParameter parameter' database)).steps) :
    (∀ took took' c c',
      (t.expand s).applyTo (Context.ofParameter parameter database) = (.ok took, c) →
      (t.expand s').applyTo (Context.ofParameter parameter' database) = (.ok took', c') →
      c.sql = c'.sql ∧ c.next = c'.next) ∧
    ∀ schema shrink st st',
      Source.statement ⟨t, s.filter, schema, database, shrink⟩ s.engine parameter = .ok st →
      Source.statement ⟨t, s'.filter, schema, database, shrink⟩ s'.engine parameter' = .ok st' →
      st.sql = st'.sql ∧ st.mappings = st'.mappings := by
  have hexpand : ∀ took took' c c',
      (t.expand s).applyTo (Context.ofParameter parameter database) = (.ok took, c) →
      (t.expand s').applyTo (Context.ofParameter parameter' database) = (.ok took', c') →
      Alike c c' := by
    intro took took' c c' h h'
    rw [Template.applyTo_expand] at h h'
    obtain ⟨hresult, rfl⟩ := Prod.mk.inj h
    obtain ⟨hresult', rfl⟩ := Prod.mk.inj h'
    have hstart : Alike (Context.ofParameter parameter database)
        (Context.ofParameter parameter' database) := ⟨rfl, rfl, rfl⟩
    refine (Lockstep.record s s' t _ _ hstart took took' hresult hresult' [] [] ?_).2.2
    rwa [List.append_nil, List.append_nil]
  refine ⟨fun took took' c c' h h' => ?_, fun schema shrink st st' h h' => ?_⟩
  · exact ⟨(hexpand took took' c c' h h').sql, (hexpand took took' c c' h h').next⟩
  · obtain ⟨took, c, hc, hsql, -⟩ := Source.stages_of_statement h
    obtain ⟨took', c', hc', hsql', -⟩ := Source.stages_of_statement h'
    -- Settings are an engine and a filter, so a source with these parts expands as they do.
    have heq : c.sql = c'.sql := (hexpand took took' c c' hc hc').sql
    rw [heq] at hsql
    have hprepared := Except.ok.inj (hsql.symm.trans hsql')
    exact ⟨congrArg Prepared.sql hprepared, congrArg Prepared.mappings hprepared⟩

/-- Two lists of two items each, of which nothing but the size is seen. -/
theorem same_choices_of_two_lists :
    let t : Template :=
      .loop ⟨"xs", some "x", none, some "(", some ")", some ","⟩ [.text "#\x7bx\x7d"]
    let s : Settings := ⟨Engine.constant (.list [.int 1, .int 2]), none⟩
    let s' : Settings := ⟨Engine.constant (.array [.text "#\x7by\x7d", .null]), none⟩
    let c := ((t.expand s).applyTo (Context.ofParameter (.int 7) none)).2
    let c' := ((t.expand s').applyTo (Context.ofParameter .null none)).2
    SameChoices (t.record s (Context.ofParameter (.int 7) none)).steps
        (t.record s' (Context.ofParameter .null none)).steps ∧
      c.sql = "(#\x7b__frch_x_0\x7d,#\x7b__frch_x_1\x7d)" ∧ c.sql = c'.sql ∧ c.next = c'.next := by
  intro t s s' c c'
  have hsame : SameChoices (t.record s (Context.ofParameter (.int 7) none)).steps
      (t.record s' (Context.ofParameter .null none)).steps :=
    ⟨by decide +kernel, by decide +kernel, by decide +kernel⟩
  have hok : ((t.expand s).applyTo (Context.ofParameter (.int 7) none)).1 = .ok true := by
    decide +kernel
  have hok' : ((t.expand s').applyTo (Context.ofParameter .null none)).1 = .ok true := by
    decide +kernel
  refine ⟨hsame, by decide +kernel, ?_⟩
  exact (same_choices_same_statement t s s' (.int 7) .null none hsame).1 true true c c'
    (Prod.ext hok rfl) (Prod.ext hok' rfl)

end SqlTemplate
