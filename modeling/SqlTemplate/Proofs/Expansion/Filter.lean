import SqlTemplate.Proofs.Expansion.Record

/-!
# The filter of substituted texts

A filter stands between the texts that substitutions compute and the SQL. Compare a filtered
expansion with the free one, from the same context:

* While every text that the free expansion computes passes, both take the same steps.
* At the first text that does not pass, the filtered expansion breaks off. All it still does is end
  the iterations that are open, which writes nothing.

**Theorem (`filtered_expansion`).** Either the two expansions agree in result and context, or the
filtered one fails at the first text that does not pass and leaves the SQL that the free one had
written before. In a filtered expansion that succeeds every substituted text passes.

The relation `Guards` between two runs says this, and every construct of a template keeps it.
-/

namespace SqlTemplate

/-- Whether a step computes a text for a substitution. -/
def Step.isSubstitute : Step → Bool
  | substitute _ _ => true
  | _ => false

/-- Every text that these steps compute for a substitution passes. -/
def Passing (passes : String → Bool) (steps : List Step) : Prop :=
  ∀ expression text, .substitute expression text ∈ steps → passes text = true

/-- The run `guarded` is the run `free`, unless `free` computes a text that does not pass. Then it
breaks off at the first such text, and only ends iterations. -/
def Guards {α : Type} (passes : String → Bool) (free guarded : Run α) : Prop :=
  (Passing passes free.steps ∧ guarded = free) ∨
    ∃ before expression text after depth,
      free.steps = before ++ .substitute expression text :: after ∧
      Passing passes before ∧ passes text = false ∧
      guarded = ⟨before ++ .substitute expression text :: List.replicate depth .leave,
        .error (.rejectedSubstitution expression text)⟩

/-- From every context the run of `guarded` guards that of `free`. -/
def Guarded {α : Type} (passes : String → Bool) (free guarded : Recorded α) : Prop :=
  ∀ c, Guards passes (free c) (guarded c)

variable {passes : String → Bool} {α β : Type}

theorem Passing.append {before after : List Step} (hbefore : Passing passes before)
    (hafter : Passing passes after) : Passing passes (before ++ after) := by
  intro expression text h
  rcases List.mem_append.1 h with h | h
  · exact hbefore expression text h
  · exact hafter expression text h

theorem passing_nil : Passing passes [] := fun _ _ h => absurd h List.not_mem_nil

namespace Guarded

/-! ## Programs without substitutions -/

/-- A program that substitutes nothing is not changed by a filter. -/
theorem refl {r : Recorded α} (h : ∀ c, Passing passes (r c).steps) : Guarded passes r r :=
  fun c => .inl ⟨h c, rfl⟩

theorem pure (a : α) : Guarded passes (Pure.pure a : Recorded α) (Pure.pure a) :=
  refl fun _ => passing_nil

theorem ask (question : Scope → Except Error α) :
    Guarded passes (Recorded.ask question) (Recorded.ask question) :=
  refl fun _ => passing_nil

theorem look : Guarded passes Recorded.look Recorded.look := refl fun _ => passing_nil

theorem take {step : Step} (h : step.isSubstitute = false) :
    Guarded passes (Recorded.take step) (Recorded.take step) := by
  refine refl fun _ expression text hmem => ?_
  rw [← List.mem_singleton.1 hmem] at h
  cases h

theorem recordOptional {step : String → Step} (h : ∀ text, (step text).isSubstitute = false)
    (text : Option String) :
    Guarded passes (Loop.recordOptional step text) (Loop.recordOptional step text) := by
  cases text with
  | none => exact pure ()
  | some text => exact take (h text)

/-! ## Programs in sequence -/

theorem bind {free guarded : Recorded α} {next next' : α → Recorded β}
    (h : Guarded passes free guarded) (hnext : ∀ a, Guarded passes (next a) (next' a)) :
    Guarded passes (free >>= next) (guarded >>= next') := by
  intro c
  rcases h c with ⟨hpass, heq⟩ | ⟨before, expression, text, after, depth, hsteps, hpass, hbad, heq⟩
  · cases hr : (free c).result with
    | error e =>
      rw [Recorded.bind_of_error hr, Recorded.bind_of_error (heq ▸ hr), heq]
      exact .inl ⟨hpass, rfl⟩
    | ok a =>
      rw [Recorded.bind_of_ok hr, Recorded.bind_of_ok (heq ▸ hr), heq]
      rcases hnext a (replay (free c).steps c) with ⟨hpass', heq'⟩ |
        ⟨before, expression, text, after, depth, hsteps, hpass', hbad, heq'⟩
      · exact .inl ⟨hpass.append hpass', by rw [heq']⟩
      · refine .inr ⟨(free c).steps ++ before, expression, text, after, depth, ?_,
          hpass.append hpass', hbad, ?_⟩
        · rw [hsteps, List.append_assoc]
        · rw [heq', List.append_assoc]
  · obtain ⟨more, hmore⟩ := Recorded.steps_bind free next c
    refine .inr ⟨before, expression, text, after ++ more, depth, ?_, hpass, hbad, ?_⟩
    · rw [hmore, hsteps, List.append_assoc, List.cons_append]
    · rw [Recorded.bind_of_error (congrArg Run.result heq), heq]

/-- Ending an iteration adds a step that computes no text. -/
theorem closing {free guarded : Recorded Unit} (h : Guarded passes free guarded) :
    Guarded passes free.closing guarded.closing := by
  intro c
  rcases h c with ⟨hpass, heq⟩ | ⟨before, expression, text, after, depth, hsteps, hpass, hbad, heq⟩
  · refine .inl ⟨hpass.append fun expression text hmem => ?_, ?_⟩
    · cases List.mem_singleton.1 hmem
    · rw [Recorded.closing, heq, Recorded.closing]
  · refine .inr ⟨before, expression, text, after ++ [.leave], depth + 1, ?_, hpass, hbad, ?_⟩
    · rw [Recorded.closing, hsteps, List.append_assoc, List.cons_append]
    · rw [Recorded.closing, heq, List.replicate_succ', List.append_assoc, List.cons_append]
      rfl

/-! ## Substitutions -/

/-- Here a filter makes a difference: what follows a text is only done if the text passes. -/
theorem substitute {expression text : String} {next next' : Recorded α}
    (h : Guarded passes next next') :
    Guarded passes
      (do
        Recorded.take (.substitute expression text)
        next)
      (do
        Recorded.take (.substitute expression text)
        if passes text then next'
        else Recorded.ofExcept (.error (.rejectedSubstitution expression text))) := by
  intro c
  rw [Recorded.take_bind_apply, Recorded.take_bind_apply, Step.apply]
  cases hpasses : passes text with
  | false => exact .inr ⟨[], expression, text, (next c).steps, 0, rfl, passing_nil, hpasses, rfl⟩
  | true =>
    have hone : Passing passes [.substitute expression text] := by
      intro expression' text' hmem
      cases List.mem_singleton.1 hmem
      exact hpasses
    rw [if_pos rfl]
    rcases h c with
      ⟨hpass, heq⟩ | ⟨before, expression', text', after, depth, hsteps, hpass, hbad, heq⟩
    · exact .inl ⟨hone.append hpass, by rw [heq]⟩
    · exact .inr ⟨.substitute expression text :: before, expression', text', after, depth,
        by rw [hsteps, List.cons_append], hone.append hpass, hbad, by rw [heq, List.cons_append]⟩

variable (engine : Engine) (passes : String → Bool)

theorem recordSpans (spans : List Span) :
    Guarded passes (Settings.recordSpans ⟨engine, none⟩ spans)
      (Settings.recordSpans ⟨engine, some passes⟩ spans) := by
  induction spans with
  | nil => exact pure []
  | cons span rest ih => exact (ask _).bind fun value => substitute (ih.bind fun texts => pure _)

theorem recordSubstituted (split : Split) :
    Guarded passes (Template.recordSubstituted ⟨engine, none⟩ split)
      (Template.recordSubstituted ⟨engine, some passes⟩ split) :=
  (recordSpans engine passes split.spans).bind fun _ => take rfl

theorem recordText (text : String) :
    Guarded passes (Template.recordText ⟨engine, none⟩ text)
      (Template.recordText ⟨engine, some passes⟩ text) := by
  rw [Template.recordText, Template.recordText]
  split
  · refine look.bind fun c => ?_
    dsimp only
    split
    · exact (take rfl).bind fun _ => recordSubstituted engine passes _
    · exact recordSubstituted engine passes _
  · exact take rfl

/-! ## Loops and templates -/

variable {engine passes} {free guarded : Recorded Unit}

theorem recordElements (l : Loop) (h : Guarded passes free guarded) (isFirst : Bool)
    (elements : List (Value × Value)) :
    Guarded passes (l.recordElements free isFirst elements)
      (l.recordElements guarded isFirst elements) := by
  induction elements generalizing isFirst with
  | nil => exact pure ()
  | cons element rest ih =>
    exact ((take rfl).bind fun _ => closing h).bind fun written => ih (isFirst && !written)

theorem recordLoop (l : Loop) (h : Guarded passes free guarded) :
    Guarded passes (l.record ⟨engine, none⟩ free) (l.record ⟨engine, some passes⟩ guarded) := by
  refine (ask _).bind fun collection => (take rfl).bind fun _ => ?_
  split
  · exact pure ()
  · refine (recordOptional (fun _ => rfl) l.opening).bind fun _ => ?_
    refine (recordElements l h true collection.elements).bind fun _ => ?_
    refine (recordOptional (fun _ => rfl) l.closing).bind fun _ => ?_
    exact (recordOptional (fun _ => rfl) l.item).bind fun _ => recordOptional (fun _ => rfl) l.index

mutual

/-- **The filter guards.** With a filter a template takes the same steps up to the first text that
does not pass, however deep that text is nested. -/
theorem record (engine : Engine) (passes : String → Bool) (t : Template) :
    Guarded passes (t.record ⟨engine, none⟩) (t.record ⟨engine, some passes⟩) := by
  cases t with
  | text text =>
    rw [Template.record, Template.record]
    exact (recordText engine passes text).bind fun _ => pure true
  | mixed parts =>
    rw [Template.record, Template.record]
    exact (recordAll engine passes parts).bind fun _ => pure true
  | condition test contents =>
    rw [Template.record, Template.record]
    refine (ask _).bind fun holds => (take rfl).bind fun _ => ?_
    split
    · exact (recordAll engine passes contents).bind fun _ => pure true
    · exact pure false
  | loop l contents =>
    rw [Template.record, Template.record]
    exact (recordLoop l (recordAll engine passes contents)).bind fun _ => pure true

theorem recordAll (engine : Engine) (passes : String → Bool) (ts : List Template) :
    Guarded passes (Template.recordAll ⟨engine, none⟩ ts)
      (Template.recordAll ⟨engine, some passes⟩ ts) := by
  cases ts with
  | nil => exact pure ()
  | cons part rest =>
    rw [Template.recordAll, Template.recordAll]
    exact (record engine passes part).bind fun _ => recordAll engine passes rest

end

end Guarded

/-! ## The outcome of a filtered expansion -/

theorem sql_replay_replicate_leave (n : Nat) (c : Context) :
    (replay (List.replicate n .leave) c).sql = c.sql := by
  induction n generalizing c with
  | zero => rfl
  | succ n ih => rw [List.replicate_succ, replay_cons, ih]; rfl

/-- **The filter is complete and otherwise invisible.** If every text that the free expansion
computes passes, filtering changes nothing. Else the filtered expansion fails at the first text
that does not pass, with the SQL that was written before. If it succeeds, all its texts pass. -/
theorem filtered_expansion (engine : Engine) (passes : String → Bool) (t : Template)
    (c : Context) :
    let free := t.record ⟨engine, none⟩ c
    let filtered := (t.expand ⟨engine, some passes⟩).applyTo c
    (t.expand ⟨engine, none⟩).applyTo c = (free.result, replay free.steps c) ∧
      (Passing passes free.steps → filtered = (t.expand ⟨engine, none⟩).applyTo c) ∧
      (¬ Passing passes free.steps → ∃ before expression text after,
        free.steps = before ++ .substitute expression text :: after ∧
        Passing passes before ∧ passes text = false ∧
        filtered.1 = .error (.rejectedSubstitution expression text) ∧
        filtered.2.sql = (replay before c).sql) ∧
      ∀ took, filtered.1 = .ok took → Passing passes (t.record ⟨engine, some passes⟩ c).steps := by
  intro free filtered
  have hfree : (t.expand ⟨engine, none⟩).applyTo c = (free.result, replay free.steps c) :=
    Template.applyTo_expand _ t c
  have hfiltered : filtered = ((t.record ⟨engine, some passes⟩ c).result,
      replay (t.record ⟨engine, some passes⟩ c).steps c) := Template.applyTo_expand _ t c
  refine ⟨hfree, ?_⟩
  rcases Guarded.record engine passes t c with
    ⟨hpass, heq⟩ | ⟨before, expression, text, after, depth, hsteps, hpass, hbad, heq⟩
  · refine ⟨fun _ => ?_, fun hnot => absurd hpass hnot, fun _ _ => by rw [heq]; exact hpass⟩
    rw [hfree, hfiltered, heq]
  · refine ⟨fun hall => ?_, fun _ => ?_, fun took hok => ?_⟩
    · -- The first text that does not pass is among the steps of the free run.
      have hmem : .substitute expression text ∈ free.steps := by
        rw [hsteps]
        exact List.mem_append_right _ List.mem_cons_self
      rw [hall expression text hmem] at hbad
      cases hbad
    · refine ⟨before, expression, text, after, hsteps, hpass, hbad, ?_, ?_⟩
      · rw [hfiltered, heq]
      · rw [hfiltered, heq]
        show (replay (before ++ _) c).sql = _
        rw [replay_append, replay_cons, sql_replay_replicate_leave, Step.apply]
    · rw [hfiltered, heq] at hok
      cases hok

end SqlTemplate
