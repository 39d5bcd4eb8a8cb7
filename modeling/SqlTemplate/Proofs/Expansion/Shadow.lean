import SqlTemplate.Proofs.Expansion.Origin
import SqlTemplate.Statement.Basic

/-!
# What a loop leaves bound

There is one table of bindings. A loop that has gone through an element removes its variables from
it, whatever was bound to these names before the loop began.

**Theorem (`get?_after_loop`).** When a loop has ended, its variables are unbound, unless the
collection was empty; only the parameter cannot be removed. A name that no loop inside has for a
variable is bound to what it was bound to before.

So the variable of a loop outlives the loops inside it exactly if they have other variables, or
nothing to go through. `inner_loop_unbinds_variable` runs two loops with one variable.
-/

namespace SqlTemplate

/-! ## What runs keep -/

theorem parameter_replay (steps : List Step) (c : Context) :
    (replay steps c).bindings.parameter = c.bindings.parameter := by
  induction steps generalizing c with
  | nil => rfl
  | cons step rest ih => exact (ih _).trans (step.parameter_apply c)

theorem ascending_replay (steps : List Step) {c : Context} (h : Keyed.Ascending c.bindings.table) :
    Keyed.Ascending (replay steps c).bindings.table := by
  induction steps generalizing c with
  | nil => exact h
  | cons step rest ih => exact ih (step.ascending_apply h)

/-- A run changes no name but those that its steps touch. -/
theorem get?_replay {steps : List Step} {name : String}
    (h : ∀ step ∈ steps, ∀ d, ¬ step.Touches d name) (c : Context) :
    (replay steps c).get? name = c.get? name := by
  induction steps generalizing c with
  | nil => rfl
  | cons step rest ih =>
    obtain ⟨hstep, hrest⟩ := List.forall_mem_cons.1 h
    exact (ih hrest _).trans (Step.get?_apply (hstep c))

theorem Bindings.get?_congr {b b' : Bindings} {name : String}
    (hparameter : b.parameter = b'.parameter)
    (htable : Keyed.get? name b.table = Keyed.get? name b'.table) : b.get? name = b'.get? name := by
  rw [get?, get?, hparameter, htable]

/-! ## The variables of the loop -/

/-- Where a program begins in a context with `before` and succeeds, it ends in one with `after`. -/
def Ensures {α : Type} (before : Context → Prop) (p : Recorded α) (after : Context → Prop) : Prop :=
  ∀ c a, before c → (p c).result = .ok a → after (replay (p c).steps c)

/-- A context whose bindings are in order. -/
def Context.InOrder (c : Context) : Prop := Keyed.Ascending c.bindings.table

namespace Ensures

variable {α β : Type} {before between after : Context → Prop} {p : Recorded α}
  {next : α → Recorded β}

theorem bind (h : Ensures before p between) (hnext : ∀ a, Ensures between (next a) after) :
    Ensures before (p >>= next) after := by
  intro c b hc hb
  obtain ⟨a, ha, hb⟩ := Recorded.bind_eq_ok hb
  rw [Recorded.bind_of_ok ha, replay_append]
  exact hnext a _ b (h c a hc ha) hb

theorem inOrder (p : Recorded α) : Ensures Context.InOrder p Context.InOrder :=
  fun c _ hc _ => ascending_replay (p c).steps hc

/-- Removing a name, if there is one, after which names that are unbound are still so. -/
theorem unbind (name : Option String) (unbound : List String) :
    Ensures (fun c => c.InOrder ∧ ∀ v ∈ unbound, c.get? v = none)
      (Loop.recordOptional .unbind name)
      (fun c => c.InOrder ∧ ∀ v ∈ unbound ++ name.toList, c.get? v = none) := by
  intro c a hc _
  refine ⟨ascending_replay _ hc.1, fun v hv => ?_⟩
  cases name with
  | none => exact hc.2 v (by simpa using hv)
  | some name =>
    refine (Context.get?_unbind c name v hc.1).trans ?_
    split
    · rfl
    · next hne =>
      refine hc.2 v ?_
      simpa [Ne.symm hne] using hv

end Ensures

namespace Loop

variable {l : Loop} {body : Recorded Unit} {collection : Collection}

/-- A loop over nothing leaves the context as it is. -/
theorem replay_recordOver_of_empty (hempty : collection.size = 0) (c : Context) :
    replay (l.recordOver body collection c).steps c = c := by
  rw [recordOver, if_pos hempty]
  rfl

/-- A loop over something ends by removing its variables. -/
theorem unbound_after_recordOver (hnonempty : collection.size ≠ 0) :
    Ensures Context.InOrder (l.recordOver body collection) fun c =>
      c.InOrder ∧ ∀ v ∈ l.names, c.get? v = none := by
  rw [recordOver, if_neg hnonempty]
  refine (Ensures.inOrder _).bind fun _ => (Ensures.inOrder _).bind fun _ =>
    (Ensures.inOrder _).bind fun _ => (Ensures.inOrder _).bind fun _ => ?_
  have hitem := Ensures.unbind l.item []
  have hindex := Ensures.unbind l.index l.item.toList
  rw [List.nil_append] at hitem
  exact Ensures.bind (fun c a hc => hitem c a ⟨hc, List.forall_mem_nil _⟩) fun _ => hindex

end Loop

/-! ## Other names -/

/-- A name that steps of these loops cannot touch: it is no variable of them and not named like an
iteration, and it is not `value`, which texts may bind where the parameter is a single value. -/
structure Untouched (loops : List Loop) (parameter : Value) (name : String) : Prop where
  not_variable : ∀ l ∈ loops, name ∉ l.names
  not_iteration : ¬ "__frch_".toList <+: name.toList
  not_value : parameter.isScalar → name ≠ "value"

theorem Step.Arises.not_touches {s : Settings} {loops : List Loop} {seen : Context → Prop}
    {step : Step} {parameter : Value} {name : String} (h : step.Arises s loops seen)
    (hseen : ∀ d, seen d → d.bindings.parameter = parameter)
    (hname : Untouched loops parameter name) (c : Context) : ¬ step.Touches c name := by
  cases step with
  | test | count | substitute | write | leave => exact id
  | bind other value =>
    rintro rfl
    obtain ⟨rfl, hscalar, d, hd, rfl⟩ := h
    rw [hseen d hd] at hscalar
    exact hname.not_value hscalar rfl
  | unbind other =>
    rintro rfl
    obtain ⟨l, hl, hmem⟩ := h
    exact hname.not_variable l hl hmem
  | enter l separator element =>
    rintro ⟨v, hv, rfl | rfl⟩
    · exact hname.not_variable l h.1 hv
    · exact hname.not_iteration (Renaming.prefix_iterationName v c.next)

/-- **An expansion leaves other names alone**, whether it succeeds or fails. -/
theorem Template.get?_after_record (s : Settings) (t : Template) (c : Context) {name : String}
    (hname : Untouched t.loops c.bindings.parameter name) :
    (replay (t.record s c).steps c).get? name = c.get? name := by
  refine get?_replay (fun step hstep d => ?_) c
  refine (t.originates s c step hstep).not_touches (fun e he => ?_) hname d
  obtain ⟨before, -, rfl⟩ := he.resolve_left id
  exact parameter_replay before c

/-! ## Loops -/

/-- **What a loop leaves bound.** When a loop has ended, each of its variables is unbound, unless
the collection was empty or the variable is the name of the parameter. A name that neither this loop
nor a loop inside it has for a variable is bound as before. -/
theorem get?_after_loop {s : Settings} {l : Loop} {contents : List Template} {c final : Context}
    {took : Bool} (hascending : Keyed.Ascending c.bindings.table)
    (h : ((Template.loop l contents).expand s).applyTo c = (.ok took, final)) :
    ∃ collection, s.engine.collection l.collection c.bindings.lookup = .ok collection ∧
      (∀ name ∈ l.names, final.bindings.get? name =
        if collection.size = 0 ∨ name = Bindings.parameterName then c.bindings.get? name
        else none) ∧
      ∀ name, Untouched (Template.loop l contents).loops c.bindings.parameter name →
        final.bindings.get? name = c.bindings.get? name := by
  rw [Template.applyTo_expand] at h
  obtain ⟨hresult, rfl⟩ := Prod.mk.inj h
  have hparameter := parameter_replay ((Template.loop l contents).record s c).steps c
  rw [Template.record] at hresult
  obtain ⟨done, hloop, -⟩ := Recorded.bind_eq_ok hresult
  have hfinal : ((Template.loop l contents).record s c).steps =
      (l.record s (Template.recordAll s contents) c).steps := by
    rw [Template.record, Recorded.bind_of_ok hloop]
    exact List.append_nil _
  rw [Loop.record_eq, Recorded.ask_bind_apply] at hloop hfinal
  cases hcollection : s.engine.collection l.collection c.bindings.lookup with
  | error e => rw [hcollection] at hloop; cases hloop
  | ok collection =>
    rw [hcollection] at hloop hfinal
    refine ⟨collection, rfl, fun name hname => ?_, fun name hname => ?_⟩
    · split
      · next hkept =>
        rcases hkept with hempty | rfl
        · rw [hfinal, Loop.replay_recordOver_of_empty hempty]
        · exact congrArg some hparameter
      · next hremoved =>
        obtain ⟨hnonempty, hne⟩ := not_or.1 hremoved
        rw [Bindings.get?, if_neg hne, hfinal]
        exact (Loop.unbound_after_recordOver hnonempty c done hascending hloop).2 name hname
    · exact Bindings.get?_congr hparameter (Template.get?_after_record s _ c hname)

/-- A loop removes its variable, which was bound before, and leaves the name of the database. -/
theorem variable_unbound_after_loop :
    let c := (Context.ofParameter (.map [("ys", .list [.int 2])]) (some "h2")).bind "x" (.int 1)
    let run := ((Template.loop ⟨"ys", some "x", none, none, none, none⟩ [.text "."]).expand
      ⟨Engine.paths, none⟩).applyTo c
    c.bindings.has "x" = true ∧ run.2.bindings.get? "x" = none ∧
      (run.2.bindings.get? Bindings.databaseName).map Value.toText = some "h2" := by
  intro c run
  have hascending : Keyed.Ascending c.bindings.table :=
    (Context.ascending_ofParameter _ _).insert "x" (.int 1)
  have hsize : (Engine.paths.collection "ys" c.bindings.lookup).toOption.map Collection.size =
      some 1 := by decide +kernel
  have hrun : run = (.ok true, run.2) := Prod.ext (by decide +kernel) rfl
  obtain ⟨collection, hcollection, hvariables, hothers⟩ := get?_after_loop hascending hrun
  rw [hcollection] at hsize
  refine ⟨by decide +kernel, ?_, ?_⟩
  · rw [hvariables "x" (by decide), if_neg]
    rw [Option.some.inj hsize]
    decide
  · rw [hothers Bindings.databaseName ⟨by decide, by decide, by decide⟩]
    decide +kernel

/-- The variable of the outer loop is unbound after the inner loop, which has the same one: the text
after it is empty. -/
theorem inner_loop_unbinds_variable :
    (Source.statement
      { template := .loop ⟨"xs", some "x", none, none, none, none⟩
          [.loop ⟨"ys", some "x", none, none, none, none⟩ [.text "."], .text "$\x7bx\x7d"] }
      Engine.paths (.map [("xs", .list [.int 1]), ("ys", .list [.int 2])])).toOption.map
        (fun st => (st.sql, st.mappings)) = some (".", []) ∧
    let c := (Context.ofParameter (.map [("ys", .list [.int 2])]) none).bind "x" (.int 1)
    let run := ((Template.loop ⟨"ys", some "x", none, none, none, none⟩ [.text "."]).expand
      ⟨Engine.paths, none⟩).applyTo c
    run.1.toOption = some true ∧ c.bindings.has "x" = true ∧ run.2.bindings.has "x" = false := by
  decide +kernel

end SqlTemplate
