import SqlTemplate.Proofs.Expansion.Leftover

/-!
# What an expansion keeps of its context

An expansion may begin anywhere: after other expansions, among bindings that a caller has made,
behind SQL that has been written by hand. It adds to all of this, also when it fails in the middle.

**Theorem (`expansion_extends`).** From any context, and whether it succeeds or fails, an expansion
keeps the SQL that is there as a prefix, does not go back with its numbers, keeps the parameter and
what `_parameter` stands for, and keeps every name, bound or not, that its loops cannot touch.

`Context.Extends` is what one context keeps of another. It is a preorder, so a run keeps what each
of its steps keeps; that a loop may have a variable called `_parameter` does not matter, since the
table has no say in what this name stands for.
-/

namespace SqlTemplate

/-! ## Extensions -/

/-- A context that comes out of another one where these loops are expanded. -/
structure Context.Extends (loops : List Loop) (c d : Context) : Prop where
  sql : ∃ added, d.sql = c.sql ++ added
  next : c.next ≤ d.next
  parameter : d.bindings.parameter = c.bindings.parameter
  bound : ∀ name, Untouched loops c.bindings.parameter name → d.get? name = c.get? name

namespace Context.Extends

variable {loops : List Loop} {c d e : Context}

theorem refl (loops : List Loop) (c : Context) : c.Extends loops c :=
  ⟨⟨"", String.append_empty.symm⟩, Nat.le_refl _, rfl, fun _ _ => rfl⟩

theorem trans (h : c.Extends loops d) (h' : d.Extends loops e) : c.Extends loops e := by
  obtain ⟨added, hd⟩ := h.sql
  obtain ⟨more, he⟩ := h'.sql
  refine ⟨⟨added ++ more, ?_⟩, Nat.le_trans h.next h'.next, h'.parameter.trans h.parameter, ?_⟩
  · rw [he, hd, String.append_assoc]
  · intro name hname
    rw [h'.bound name (h.parameter ▸ hname), h.bound name hname]

/-- A step keeps this if it comes about where these loops are expanded. -/
theorem of_step {s : Settings} {step : Step}
    (h : step.Arises s loops fun d => d.bindings.parameter = c.bindings.parameter) :
    c.Extends loops (step.apply c) where
  sql := ⟨_, step.sql_apply c⟩
  next := step.next_apply c
  parameter := step.parameter_apply c
  bound _ hname := Step.get?_apply (h.not_touches (fun _ => id) hname c)

/-- A run keeps what each of its steps keeps. -/
theorem of_replay {s : Settings} {steps : List Step}
    (h : ∀ step ∈ steps,
      step.Arises s loops fun d => d.bindings.parameter = c.bindings.parameter) :
    c.Extends loops (replay steps c) := by
  induction steps generalizing c with
  | nil => exact refl loops c
  | cons step rest ih =>
    obtain ⟨hstep, hrest⟩ := List.forall_mem_cons.1 h
    have hfirst := of_step hstep
    exact hfirst.trans (ih (hfirst.parameter ▸ hrest))

/-- What stands for the parameter, and what is bound to a name that has not been touched. -/
theorem get? (h : c.Extends loops d) {name : String}
    (hname : name = Bindings.parameterName ∨ Untouched loops c.bindings.parameter name) :
    d.bindings.get? name = c.bindings.get? name := by
  by_cases hparameter : name = Bindings.parameterName
  · rw [Bindings.get?, Bindings.get?, if_pos hparameter, if_pos hparameter, h.parameter]
  · exact Bindings.get?_congr h.parameter (h.bound name (hname.resolve_left hparameter))

end Context.Extends

/-! ## Expansions -/

/-- The context after an expansion extends the one before it. -/
theorem Template.extends_expand (s : Settings) (t : Template) (c : Context) :
    c.Extends t.loops ((t.expand s).applyTo c).2 := by
  rw [Template.applyTo_expand]
  refine .of_replay (s := s) fun step hstep => (t.originates s c step hstep).mono fun d hd => ?_
  obtain ⟨before, -, rfl⟩ := hd.resolve_left id
  exact parameter_replay before c

/-- **An expansion only extends its context.** Whether it succeeds or fails: the SQL of before is a
prefix of the SQL afterwards, the next number has not decreased, the parameter is the same and so is
what `_parameter` stands for, and a name that the loops cannot touch is bound to what it was bound
to, or still unbound. -/
theorem expansion_extends (s : Settings) (t : Template) (c : Context) :
    let final := ((t.expand s).applyTo c).2
    (∃ added, final.sql = c.sql ++ added) ∧ c.next ≤ final.next ∧
      final.bindings.parameter = c.bindings.parameter ∧
      final.bindings.get? Bindings.parameterName = c.bindings.get? Bindings.parameterName ∧
      final.bindings.lookup Bindings.parameterName = c.bindings.lookup Bindings.parameterName ∧
      ∀ name, Untouched t.loops c.bindings.parameter name →
        Keyed.get? name final.bindings.table = Keyed.get? name c.bindings.table ∧
          final.bindings.get? name = c.bindings.get? name ∧
          final.bindings.has name = c.bindings.has name := by
  intro final
  have h : c.Extends t.loops final := t.extends_expand s c
  have hparameter := h.get? (.inl rfl)
  refine ⟨h.sql, h.next, h.parameter, hparameter, ?_, fun name hname => ?_⟩
  · rw [Bindings.lookup, Bindings.lookup, hparameter, h.parameter]
  · refine ⟨h.bound name hname, h.get? (.inr hname), ?_⟩
    exact congrArg (fun value => name == Bindings.parameterName || Option.isSome value)
      (h.bound name hname)

/-- A loop whose variable is called `_parameter` fails in its first iteration. What `_parameter`
stands for is the same, a name that the caller has bound still is, and the SQL has become longer. -/
theorem failed_loop_extends :
    let parameter : Value := .map [("xs", .list [.int 1, .int 2])]
    let c := ((Context.ofParameter parameter (some "h2")).bind "kept" (.int 7)).append "select "
    let run := ((Template.loop ⟨"xs", some "_parameter", none, some "(", some ")", some ","⟩
      [.text "a", .text "$\x7b[\x7d"]).expand ⟨Engine.paths, none⟩).applyTo c
    run.1.toOption = none ∧ run.2.sql = "select (a" ∧
      Keyed.has "_parameter" run.2.bindings.table = true ∧
      run.2.bindings.get? "_parameter" = some parameter ∧
      Keyed.get? "kept" run.2.bindings.table = some (.int 7) := by
  intro parameter c run
  obtain ⟨-, -, -, hparameter, -, hbound⟩ := expansion_extends ⟨Engine.paths, none⟩
    (.loop ⟨"xs", some "_parameter", none, some "(", some ")", some ","⟩
      [.text "a", .text "$\x7b[\x7d"]) c
  refine ⟨by decide +kernel, by decide +kernel, by decide +kernel, hparameter, ?_⟩
  exact (hbound "kept" ⟨by decide, by decide, by decide⟩).1

end SqlTemplate
