import SqlTemplate.Proofs.Context.Variable
import SqlTemplate.Proofs.Expansion.Record

/-!
# The values of loop variables

Inside an iteration a variable of the loop stands for an element, and so does its name in this
iteration. The variable is bound anew in the next iteration and removed at the end of the loop, but
the name of the iteration keeps its value to the end of the expansion.

**Theorem (`bound_of_mem_emissions`).** Let every step of a run be allowed where it is taken. For
every text that comes out of the run and every variable of an iteration that it has gone through,
the value that the variable had when the text was written is the value that its name in this
iteration has in the end.

`Sound` is the invariant of contexts, and `Step.Allowed` says which steps keep it. A step changes no
name that it does not touch (`Step.get?_apply`); what follows for steps that bind and remove no name
of an iteration is `Kept`.
-/

namespace SqlTemplate

open Renaming

/-! ## What comes out of a run -/

/-- The texts that come out of a step, each with the bindings at its place. -/
def Step.emissions (c : Context) : Step → List (Emission × Bindings)
  | write text => (Layer.tracePass c.layers [⟨text, []⟩]).2.map (·, c.bindings)
  | _ => []

/-- The texts that come out of a run, each with the bindings at its place. -/
def emissionsOf : List Step → Context → List (Emission × Bindings)
  | [], _ => []
  | step :: rest, c => step.emissions c ++ emissionsOf rest (step.apply c)

theorem Step.sql_apply (step : Step) (c : Context) :
    (step.apply c).sql =
      c.sql ++ String.join ((step.emissions c).map fun written => written.1.sql) := by
  cases step with
  | write text =>
    have hpass := Layer.pass_eq_trace c.layers [⟨text, []⟩]
    change Layer.pass c.layers [text] = _ at hpass
    rw [Step.apply, Context.append_sql, hpass, emissions, List.map_map]
    rfl
  | enter l separator element => simp [Step.apply, emissions]
  | _ => simp [Step.apply, emissions, Context.bind, Context.unbind, Context.leave]

/-- **The SQL of a run is that of its emissions.** -/
theorem sql_replay (steps : List Step) (c : Context) :
    (replay steps c).sql =
      c.sql ++ String.join ((emissionsOf steps c).map fun written => written.1.sql) := by
  induction steps generalizing c with
  | nil => simp [emissionsOf]
  | cons step rest ih =>
    rw [replay_cons, ih, emissionsOf, Step.sql_apply, List.map_append, String.join_append,
      String.append_assoc]

/-! ## The table -/

/-- The loop variables around a place. -/
def Layer.names (layers : List Layer) : List String := (renamings layers).flatMap Renaming.names

theorem Layer.mem_names {layers : List Layer} {v : String} :
    v ∈ names layers ↔ ∃ r ∈ renamings layers, v ∈ r.names := List.mem_flatMap

namespace Context

/-- The value of a name in the table. -/
def get? (c : Context) (name : String) : Option Value := Keyed.get? name c.bindings.table

variable (c : Context) (name k : String) (value : Value) (n : Nat)

theorem get?_bind : (c.bind name value).get? k = if name = k then some value else c.get? k :=
  Keyed.get?_insert name k value c.bindings.table

theorem get?_unbind (h : Keyed.Ascending c.bindings.table) :
    (c.unbind name).get? k = if name = k then none else c.get? k := Keyed.get?_erase h name k

/-- Binding a variable changes the variable and its name in the iteration. -/
theorem get?_bindVariable :
    (c.bindVariable (some name) value n).get? k =
      if name = k ∨ iterationName name n = k then some value else c.get? k := by
  rw [bindVariable, get?_bind, get?_bind]
  by_cases hname : name = k
  · rw [if_pos hname, if_pos (.inl hname)]
  · rw [if_neg hname]
    by_cases hiteration : iterationName name n = k
    · rw [if_pos hiteration, if_pos (.inr hiteration)]
    · rw [if_neg hiteration, if_neg (not_or.2 ⟨hname, hiteration⟩)]

/-- The variable and its name in the iteration stand for one value. -/
def BoundAs (v : String) : Prop := ∃ x, c.get? v = some x ∧ c.get? (iterationName v n) = some x

variable {c name n k} {v : String} {value : Value}

theorem boundAs_bindVariable : (c.bindVariable (some v) value n).BoundAs n v := by
  refine ⟨value, ?_, ?_⟩
  · rw [get?_bindVariable, if_pos (.inl rfl)]
  · rw [get?_bindVariable, if_pos (.inr rfl)]

/-- Binding a variable leaves all other names alone. -/
theorem get?_bindVariable_of_ne {w : Option String}
    (h : ∀ name ∈ w, name ≠ k ∧ iterationName name n ≠ k) :
    (c.bindVariable w value n).get? k = c.get? k := by
  cases w with
  | none => rfl
  | some name => rw [get?_bindVariable, if_neg (not_or.2 (h name rfl))]

/-- Binding one variable leaves another one alone, in every iteration. -/
theorem BoundAs.bindVariable {m : Nat} {w : Option String} (h : c.BoundAs n v)
    (hw : ∀ name ∈ w, IsVariable name ∧ name ≠ v) (hv : IsVariable v) :
    (c.bindVariable w value m).BoundAs n v := by
  obtain ⟨x, hx, hx'⟩ := h
  refine ⟨x, ?_, ?_⟩
  · rw [get?_bindVariable_of_ne fun name hname => ⟨(hw name hname).2, ?_⟩, hx]
    exact (ne_iterationName hv.notIteration name m).symm
  · rw [get?_bindVariable_of_ne fun name hname => ⟨?_, fun heq => ?_⟩, hx']
    · exact ne_iterationName (hw name hname).1.notIteration v n
    · exact (hw name hname).2 (iterationName_inj heq).1

theorem bindVariable_parameter (c : Context) (w : Option String) (value : Value) (n : Nat) :
    (c.bindVariable w value n).bindings.parameter = c.bindings.parameter := by
  cases w <;> rfl

theorem ascending_ofParameter (parameter : Value) (database : Option String) :
    Keyed.Ascending (ofParameter parameter database).bindings.table := by
  cases database with
  | none => exact .nil
  | some name => exact List.pairwise_singleton _ _

theorem ascending_bindVariable {w : Option String} (h : Keyed.Ascending c.bindings.table) :
    Keyed.Ascending (c.bindVariable w value n).bindings.table := by
  cases w with
  | none => exact h
  | some name => exact (h.insert _ _).insert _ _

theorem enter_parameter (c : Context) (l : Loop) (separator : String) (element : Value × Value) :
    (c.enter l separator element).bindings.parameter = c.bindings.parameter := by
  rw [enter, bindVariable_parameter, bindVariable_parameter]

theorem renamings_enter (c : Context) (l : Loop) (separator : String) (element : Value × Value) :
    Layer.renamings (c.enter l separator element).layers =
      ⟨l.item, l.index, c.next⟩ :: Layer.renamings c.layers := by
  rw [enter_layers]
  rfl

end Context

/-- The names of a loop's variables. -/
def Loop.names (l : Loop) : List String := l.item.toList ++ l.index.toList

/-! ## What a step leaves alone -/

namespace Step

/-- Whether a step binds or removes a name. -/
def Touches (c : Context) (name : String) : Step → Prop
  | bind other _ | unbind other => other = name
  | enter l _ _ => ∃ v ∈ l.names, v = name ∨ iterationName v c.next = name
  | _ => False

/-- A step that binds and removes no name of an iteration, but to begin one. -/
def Spares : Step → Prop
  | bind name _ | unbind name => ¬ "__frch_".toList <+: name.toList
  | enter l _ _ => ∀ name ∈ l.names, ¬ "__frch_".toList <+: name.toList
  | _ => True

variable {step : Step} {c : Context}

theorem parameter_apply (step : Step) (c : Context) :
    (step.apply c).bindings.parameter = c.bindings.parameter := by
  cases step with
  | enter l separator element => exact Context.enter_parameter c l separator element
  | _ => rfl

theorem ascending_apply (step : Step) (h : Keyed.Ascending c.bindings.table) :
    Keyed.Ascending (step.apply c).bindings.table := by
  cases step with
  | bind name value => exact h.insert name value
  | unbind name => exact h.erase name
  | enter l separator element =>
    exact Context.ascending_bindVariable (Context.ascending_bindVariable h)
  | _ => exact h

/-- **A step changes no name but those that it touches.** -/
theorem get?_apply {name : String} (h : ¬ step.Touches c name) :
    (step.apply c).get? name = c.get? name := by
  cases step with
  | test | count | substitute | write | leave => rfl
  | bind other value => exact (Context.get?_bind ..).trans (if_neg h)
  | unbind other => exact Keyed.get?_erase_of_ne _ h
  | enter l separator element =>
    have hother : ∀ v ∈ l.names, v ≠ name ∧ iterationName v c.next ≠ name :=
      fun v hv => not_or.1 fun hname => h ⟨v, hv, hname⟩
    refine (Context.get?_bindVariable_of_ne fun v hv => hother v ?_).trans
      (Context.get?_bindVariable_of_ne fun v hv => hother v ?_)
    · exact List.mem_append_left _ (Option.mem_toList.2 hv)
    · exact List.mem_append_right _ (Option.mem_toList.2 hv)

theorem next_apply (step : Step) (c : Context) : c.next ≤ (step.apply c).next := by
  cases step with
  | enter l separator element =>
    rw [apply, Context.enter_next]
    exact Nat.le_succ _
  | _ => exact Nat.le_refl _

end Step

/-- What is kept by steps that spare the names of iterations: the parameter, and what these names
stand for, as far as there have been iterations. -/
structure Kept (c d : Context) : Prop where
  parameter : d.bindings.parameter = c.bindings.parameter
  next : c.next ≤ d.next
  get? : ∀ v n, n < c.next → d.get? (iterationName v n) = c.get? (iterationName v n)

theorem Kept.trans {c d e : Context} (h : Kept c d) (h' : Kept d e) : Kept c e :=
  ⟨h'.parameter.trans h.parameter, Nat.le_trans h.next h'.next, fun v n hn =>
    (h'.get? v n (Nat.lt_of_lt_of_le hn h.next)).trans (h.get? v n hn)⟩

theorem Kept.refl (c : Context) : Kept c c := ⟨rfl, Nat.le_refl _, fun _ _ _ => rfl⟩

/-- A step keeps the names of the iterations before it. -/
theorem Step.kept_apply {step : Step} {c : Context} (h : step.Spares) : Kept c (step.apply c) := by
  refine ⟨step.parameter_apply c, step.next_apply c, fun v n hn => get?_apply ?_⟩
  cases step with
  | test | count | substitute | write | leave => exact id
  | bind name value | unbind name => exact ne_iterationName h v n
  | enter l separator element =>
    rintro ⟨w, hw, heq | heq⟩
    · exact ne_iterationName (h w hw) v n heq
    · exact Nat.ne_of_lt hn (iterationName_inj heq).2.symm

/-- A run keeps the names of the iterations before it. -/
theorem kept_replay {steps : List Step} {c : Context} (h : ∀ step ∈ steps, step.Spares) :
    Kept c (replay steps c) := by
  induction steps generalizing c with
  | nil => exact Kept.refl c
  | cons step rest ih =>
    obtain ⟨hstep, hrest⟩ := List.forall_mem_cons.1 h
    exact (Step.kept_apply hstep).trans (ih hrest)

/-! ## Sound contexts -/

/-- Every variable of an iteration around this place is bound, and so is its name in the iteration,
to one value. Where the parameter is a single value there is no iteration. -/
structure Sound (c : Context) : Prop where
  ascending : Keyed.Ascending c.bindings.table
  number_lt : ∀ r ∈ Layer.renamings c.layers, r.number < c.next
  isVariable : ∀ r ∈ Layer.renamings c.layers, ∀ v ∈ r.names, IsVariable v
  bound : ∀ r ∈ Layer.renamings c.layers, ∀ v ∈ r.names, c.BoundAs r.number v
  outside : c.bindings.parameter.isScalar → Layer.renamings c.layers = []
  scalar : c.bindings.parameter.isScalar → ∀ name x, c.get? name = some x → x.isScalar

/-- A name that may be bound and removed here without disturbing an iteration. -/
structure Context.Free (c : Context) (name : String) : Prop where
  not_variable : name ∉ Layer.names c.layers
  not_iteration : ¬ "__frch_".toList <+: name.toList

/-- The steps that keep the values of loop variables. -/
def Step.Allowed (c : Context) : Step → Prop
  | bind name value => c.Free name ∧ (c.bindings.parameter.isScalar → value.isScalar)
  | unbind name => c.Free name
  | enter l _ _ => l.names.Nodup ∧
      (∀ name ∈ l.names, IsVariable name ∧ name ∉ Layer.names c.layers) ∧
      c.bindings.parameter.isScalar = false
  | _ => True

/-! ## One step -/

theorem Context.Free.ne {c : Context} {name : String} (h : c.Free name) {r : Renaming}
    (hr : r ∈ Layer.renamings c.layers) {v : String} (hv : v ∈ r.names) : name ≠ v := by
  rintro rfl
  exact h.not_variable (Layer.mem_names.2 ⟨r, hr, hv⟩)

theorem Context.Free.ne_iterationName {c : Context} {name : String} (h : c.Free name) (v : String)
    (n : Nat) : name ≠ iterationName v n := by
  rintro rfl
  exact h.not_iteration (prefix_iterationName v n)

theorem Step.Allowed.spares {step : Step} {c : Context} (h : step.Allowed c) : step.Spares := by
  cases step with
  | test | count | substitute | write | leave => trivial
  | bind name value => exact h.1.not_iteration
  | unbind name => exact h.not_iteration
  | enter l separator element => exact fun name hname => (h.2.1 name hname).1.notIteration

namespace Sound

variable {c : Context}

theorem bind {name : String} {value : Value} (h : Sound c) (hfree : c.Free name)
    (hvalue : c.bindings.parameter.isScalar → value.isScalar) : Sound (c.bind name value) := by
  refine ⟨h.ascending.insert name value, h.number_lt, h.isVariable, fun r hr v hv => ?_, h.outside,
    fun hscalar k x hx => ?_⟩
  · obtain ⟨x, hx, hx'⟩ := h.bound r hr v hv
    refine ⟨x, ?_, ?_⟩
    · rw [Context.get?_bind, if_neg (hfree.ne hr hv), hx]
    · rw [Context.get?_bind, if_neg (hfree.ne_iterationName v r.number), hx']
  · rw [Context.get?_bind] at hx
    split at hx
    · cases hx; exact hvalue hscalar
    · exact h.scalar hscalar k x hx

theorem unbind {name : String} (h : Sound c) (hfree : c.Free name) : Sound (c.unbind name) := by
  refine ⟨h.ascending.erase name, h.number_lt, h.isVariable, fun r hr v hv => ?_, h.outside,
    fun hscalar k x hx => ?_⟩
  · obtain ⟨x, hx, hx'⟩ := h.bound r hr v hv
    refine ⟨x, ?_, ?_⟩
    · rw [Context.get?_unbind _ _ _ h.ascending, if_neg (hfree.ne hr hv), hx]
    · rw [Context.get?_unbind _ _ _ h.ascending, if_neg (hfree.ne_iterationName v r.number), hx']
  · rw [Context.get?_unbind _ _ _ h.ascending] at hx
    split at hx
    · cases hx
    · exact h.scalar hscalar k x hx

/-- Writing changes nothing but the SQL and what separators remember. -/
theorem write (h : Sound c) (text : String) : Sound (c.append text) := by
  have hrenamings : Layer.renamings (c.append text).layers = Layer.renamings c.layers := by
    rw [Context.append_layers, ← Layer.renamings_map_outline, Layer.outline_pass,
      Layer.renamings_map_outline]
  refine ⟨h.ascending, ?_, ?_, ?_, ?_, h.scalar⟩
  · rw [hrenamings]; exact h.number_lt
  · rw [hrenamings]; exact h.isVariable
  · rw [hrenamings]; exact h.bound
  · rw [hrenamings]; exact h.outside

theorem leave (h : Sound c) : Sound c.leave := by
  have hsub : ∀ r ∈ Layer.renamings c.leave.layers, r ∈ Layer.renamings c.layers :=
    fun r hr => ((List.drop_sublist 2 c.layers).filterMap _).mem hr
  refine ⟨h.ascending, fun r hr => h.number_lt r (hsub r hr),
    fun r hr => h.isVariable r (hsub r hr), fun r hr => h.bound r (hsub r hr),
    fun hscalar => ?_, h.scalar⟩
  rw [List.eq_nil_iff_forall_not_mem]
  intro r hr
  rw [h.outside hscalar] at hsub
  cases hsub r hr

section enter

variable {l : Loop} {separator : String} {element : Value × Value}

/-- The variables of the iteration that begins are bound. -/
theorem boundAs_enter (hnodup : l.names.Nodup) (hnames : ∀ name ∈ l.names, IsVariable name)
    {v : String} (hv : v ∈ l.names) : (c.enter l separator element).BoundAs c.next v := by
  obtain ⟨collection, item, index, opening, closing, between⟩ := l
  -- The item is bound last; it differs from the index, which keeps its value.
  rcases List.mem_append.1 hv with hitem | hindex
  · cases Option.mem_toList.1 hitem
    exact Context.boundAs_bindVariable
  · cases Option.mem_toList.1 hindex
    refine Context.BoundAs.bindVariable Context.boundAs_bindVariable (fun w hw => ?_) (hnames v hv)
    have hw' : w ∈ item.toList := Option.mem_toList.2 hw
    refine ⟨hnames w (List.mem_append_left _ hw'), ?_⟩
    rintro rfl
    exact (List.nodup_append.1 hnodup).2.2 w hw' w hindex rfl

/-- The variables of the iterations around it stay bound. -/
theorem boundAs_enter_of_not_mem (hnames : ∀ name ∈ l.names, IsVariable name) {v : String} {n : Nat}
    (h : c.BoundAs n v) (hv : IsVariable v) (hnot : v ∉ l.names) :
    (c.enter l separator element).BoundAs n v := by
  have hother : ∀ w ∈ l.names, IsVariable w ∧ w ≠ v := by
    intro w hw
    refine ⟨hnames w hw, ?_⟩
    rintro rfl
    exact hnot hw
  refine Context.BoundAs.bindVariable (Context.BoundAs.bindVariable h (fun w hw => hother w ?_) hv)
    (fun w hw => hother w ?_) hv
  · exact List.mem_append_right _ (Option.mem_toList.2 hw)
  · exact List.mem_append_left _ (Option.mem_toList.2 hw)

theorem enter (h : Sound c) (hnodup : l.names.Nodup)
    (hnames : ∀ name ∈ l.names, IsVariable name ∧ name ∉ Layer.names c.layers)
    (hparameter : c.bindings.parameter.isScalar = false) :
    Sound (c.enter l separator element) := by
  have hvariables : ∀ name ∈ l.names, IsVariable name := fun name hname => (hnames name hname).1
  have hparameter' : (c.enter l separator element).bindings.parameter.isScalar ≠ true := by
    rw [Context.enter_parameter, hparameter]
    exact Bool.false_ne_true
  refine ⟨?_, ?_, ?_, ?_, fun hscalar => absurd hscalar hparameter',
    fun hscalar => absurd hscalar hparameter'⟩
  · exact Context.ascending_bindVariable (Context.ascending_bindVariable h.ascending)
  · rw [Context.renamings_enter, Context.enter_next]
    refine List.forall_mem_cons.2 ⟨Nat.lt_succ_self _, fun r hr => ?_⟩
    exact Nat.lt_succ_of_lt (h.number_lt r hr)
  · rw [Context.renamings_enter]
    exact List.forall_mem_cons.2 ⟨hvariables, h.isVariable⟩
  · rw [Context.renamings_enter]
    refine List.forall_mem_cons.2 ⟨fun v hv => boundAs_enter hnodup hvariables hv, ?_⟩
    intro r hr v hv
    refine boundAs_enter_of_not_mem hvariables (h.bound r hr v hv) (h.isVariable r hr v hv) ?_
    exact fun hmem => (hnames v hmem).2 (Layer.mem_names.2 ⟨r, hr, hv⟩)

end enter

/-- **An allowed step keeps a context sound.** -/
theorem apply {step : Step} (h : Sound c) (hstep : step.Allowed c) : Sound (step.apply c) := by
  cases step with
  | test | count | substitute => exact h
  | bind name value => exact h.bind hstep.1 hstep.2
  | write text => exact h.write text
  | enter l separator element => exact h.enter hstep.1 hstep.2.1 hstep.2.2
  | leave => exact h.leave
  | unbind name => exact h.unbind hstep

end Sound

/-- Where the parameter is a single value, every name stands for one. -/
theorem Sound.isScalar_of_lookup {c : Context} (h : Sound c)
    (hscalar : c.bindings.parameter.isScalar) (name : String) (x : Value)
    (hx : c.bindings.lookup name = some x) : x.isScalar := by
  rw [Bindings.lookup, Option.or_eq_some_iff] at hx
  rcases hx with hx | ⟨-, hx⟩
  · rw [Bindings.get?] at hx
    split at hx
    · cases hx; exact hscalar
    · exact h.scalar hscalar name x hx
  · cases hparameter : c.bindings.parameter with
    | map entries => rw [hparameter] at hscalar; cases hscalar
    | _ => rw [hparameter] at hx; cases hx

/-! ## A run -/

/-- Every step is allowed where it is taken. -/
def AllowedRun : List Step → Context → Prop
  | [], _ => True
  | step :: rest, c => step.Allowed c ∧ AllowedRun rest (step.apply c)

theorem allowedRun_append {before after : List Step} {c : Context} :
    AllowedRun (before ++ after) c ↔ AllowedRun before c ∧ AllowedRun after (replay before c) := by
  induction before generalizing c with
  | nil => simp [AllowedRun]
  | cons step rest ih => rw [List.cons_append, AllowedRun, AllowedRun, ih, replay_cons, and_assoc]

/-- A run of allowed steps keeps a context sound. -/
theorem Sound.replay {steps : List Step} {c : Context} (h : Sound c) (hsteps : AllowedRun steps c) :
    Sound (replay steps c) ∧ Kept c (SqlTemplate.replay steps c) := by
  induction steps generalizing c with
  | nil => exact ⟨h, Kept.refl c⟩
  | cons step rest ih =>
    obtain ⟨hsound, hkept⟩ := ih (h.apply hsteps.1) hsteps.2
    exact ⟨hsound, (Step.kept_apply hsteps.1.spares).trans hkept⟩

theorem renamings_of_mem_emissions {step : Step} {c : Context} {written : Emission × Bindings}
    (h : written ∈ step.emissions c) :
    (∀ r ∈ written.1.renamings, r ∈ Layer.renamings c.layers) ∧ written.2 = c.bindings := by
  cases step with
  | write text =>
    obtain ⟨e, he, rfl⟩ := List.mem_map.1 h
    refine ⟨fun r hr => ?_, rfl⟩
    rcases Layer.mem_tracePass he with ⟨e', he', rfl⟩ | hsuffix
    · cases List.mem_singleton.1 he'
      exact hr
    · exact hsuffix.mem hr
  | _ => cases h

/-- **The values of loop variables are kept.** What a variable of an iteration stands for where a
text is written, its name in the iteration stands for in the end. -/
theorem bound_of_mem_emissions {steps : List Step} {c : Context} (h : Sound c)
    (hsteps : AllowedRun steps c) {written : Emission × Bindings}
    (hwritten : written ∈ emissionsOf steps c) :
    ∀ r ∈ written.1.renamings, c.bindings.parameter.isScalar = false ∧
      ∀ v ∈ r.names, IsVariable v ∧ ∃ x, Keyed.get? v written.2.table = some x ∧
        (replay steps c).get? (iterationName v r.number) = some x := by
  induction steps generalizing c with
  | nil => cases hwritten
  | cons step rest ih =>
    rcases List.mem_append.1 hwritten with hwritten | hwritten
    · intro r hr
      obtain ⟨hrenamings, hbindings⟩ := renamings_of_mem_emissions hwritten
      have hr := hrenamings r hr
      refine ⟨?_, fun v hv => ?_⟩
      · rw [← Bool.not_eq_true]
        intro hscalar
        rw [h.outside hscalar] at hr
        cases hr
      obtain ⟨x, hx, hx'⟩ := h.bound r hr v hv
      refine ⟨h.isVariable r hr v hv, x, by rw [hbindings]; exact hx, ?_⟩
      have hend := (h.replay hsteps).2.get? v r.number (h.number_lt r hr)
      exact hend.trans hx'
    · rw [← step.parameter_apply c]
      exact ih (h.apply hsteps.1) hsteps.2 hwritten

end SqlTemplate
