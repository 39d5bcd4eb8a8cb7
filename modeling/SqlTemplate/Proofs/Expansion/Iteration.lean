import SqlTemplate.Proofs.Expansion.Origin

/-!
# The names of iterations

An iteration takes the next number. Under the names that have this number in them, its position or
key and its element stay bound to the end of the expansion, when the variables of its loop have long
been bound anew or removed.

**Theorem (`iterations_numbered_and_bound`).** Let no loop variable be named like those of
iterations, and let the two variables of each loop differ. Then the iterations of an expansion, also
of one that fails, have consecutive numbers, different variables or iterations have different names,
and in the end each of these names is bound to what its iteration began with.

That the numbers are consecutive follows from the steps alone. That a name stays bound takes both
halves of its shape: a name that starts differently is none (`ne_iterationName`), and the number
after its last underscore tells it from those of later iterations (`iterationName_inj`).
-/

namespace SqlTemplate

open Renaming (iterationName iterationName_inj ne_iterationName)

/-- An iteration: its number, its loop, and its element with the position or key before it. -/
structure Iteration where
  number : Nat
  loop : Loop
  element : Value × Value

/-! ## The iterations of a run -/

/-- The iteration that a step begins, if it does. -/
def Step.iterations (c : Context) : Step → List Iteration
  | enter l _ element => [⟨c.next, l, element⟩]
  | _ => []

/-- The iterations of a run, in the order in which they begin. -/
def iterationsOf : List Step → Context → List Iteration
  | [], _ => []
  | step :: rest, c => step.iterations c ++ iterationsOf rest (step.apply c)

theorem exists_enter_of_mem_iterationsOf {steps : List Step} {c : Context} {i : Iteration}
    (h : i ∈ iterationsOf steps c) : ∃ separator, .enter i.loop separator i.element ∈ steps := by
  induction steps generalizing c with
  | nil => cases h
  | cons step rest ih =>
    rcases List.mem_append.1 h with h | h
    · cases step with
      | enter l separator element =>
        rw [List.mem_singleton.1 h]
        exact ⟨separator, List.mem_cons_self⟩
      | _ => cases h
    · obtain ⟨separator, h⟩ := ih h
      exact ⟨separator, List.mem_cons_of_mem _ h⟩

/-- A step takes a number for the iteration that it begins. -/
theorem Step.numbers_iterations (step : Step) (c : Context) :
    (step.iterations c).map Iteration.number = List.range' c.next (step.iterations c).length ∧
      (step.apply c).next = c.next + (step.iterations c).length := by
  cases step with
  | enter l separator element => exact ⟨rfl, Context.enter_next c l separator element⟩
  | _ => exact ⟨rfl, rfl⟩

/-- **Iterations are numbered in order.** -/
theorem numbers_iterationsOf (steps : List Step) (c : Context) :
    (iterationsOf steps c).map Iteration.number =
        List.range' c.next (iterationsOf steps c).length ∧
      (replay steps c).next = c.next + (iterationsOf steps c).length := by
  induction steps generalizing c with
  | nil => exact ⟨rfl, rfl⟩
  | cons step rest ih =>
    obtain ⟨hfirst, hnext⟩ := step.numbers_iterations c
    obtain ⟨hnumbers, hend⟩ := ih (step.apply c)
    rw [hnext] at hnumbers hend
    rw [iterationsOf, List.map_append, List.length_append, hfirst, hnumbers, replay_cons, hend,
      Nat.add_assoc]
    exact ⟨List.range'_append_1, rfl⟩

/-! ## What an iteration binds -/

theorem Bindings.get?_iterationName (b : Bindings) (v : String) (n : Nat) :
    b.get? (iterationName v n) = Keyed.get? (iterationName v n) b.table := by
  rw [get?, if_neg]
  exact (ne_iterationName (by decide) v n).symm

/-- The names of an iteration stand for what it began with. -/
structure Iteration.BoundIn (i : Iteration) (c : Context) : Prop where
  index : ∀ v ∈ i.loop.index, c.bindings.get? (iterationName v i.number) = some i.element.1
  item : ∀ v ∈ i.loop.item, c.bindings.get? (iterationName v i.number) = some i.element.2

theorem Iteration.BoundIn.of_kept {i : Iteration} {c d : Context} (h : i.BoundIn c)
    (hkept : Kept c d) (hnumber : i.number < c.next) : i.BoundIn d := by
  have hget (v : String) : d.bindings.get? (iterationName v i.number) =
      c.bindings.get? (iterationName v i.number) := by
    rw [Bindings.get?_iterationName, Bindings.get?_iterationName]
    exact hkept.get? v i.number hnumber
  exact ⟨fun v hv => (hget v).trans (h.index v hv), fun v hv => (hget v).trans (h.item v hv)⟩

/-- Loop variables that differ from each other and are not named like those of iterations. -/
structure Loop.WellNamed (l : Loop) : Prop where
  nodup : l.names.Nodup
  notIteration : ∀ name ∈ l.names, ¬ "__frch_".toList <+: name.toList

instance (l : Loop) : Decidable l.WellNamed :=
  decidable_of_iff (l.names.Nodup ∧ ∀ name ∈ l.names, ¬ "__frch_".toList <+: name.toList)
    ⟨fun h => ⟨h.1, h.2⟩, fun h => ⟨h.nodup, h.notIteration⟩⟩

/-- An iteration binds the name of its item to its element, and that of its index to its position or
key; if the two are the same, to its element. -/
theorem Context.get?_enter {l : Loop} {v : String} (hv : l.item = some v ∨ l.index = some v)
    (hnames : ∀ name ∈ l.names, ¬ "__frch_".toList <+: name.toList) (c : Context)
    (separator : String) (element : Value × Value) :
    (c.enter l separator element).get? (iterationName v c.next) =
      some (if l.item = some v then element.2 else element.1) := by
  obtain ⟨collection, item, index, opening, closing, between⟩ := l
  by_cases hitem : item = some v
  · subst hitem
    rw [if_pos rfl]
    exact (get?_bindVariable ..).trans (if_pos (.inr rfl))
  · cases hv.resolve_left hitem
    rw [if_neg hitem]
    -- The item is bound after the index, to other names.
    refine (get?_bindVariable_of_ne fun w hw => ⟨?_, fun heq => ?_⟩).trans ?_
    · refine ne_iterationName (hnames w (List.mem_append_left _ ?_)) v c.next
      exact Option.mem_toList.2 hw
    · cases (iterationName_inj heq).1
      exact hitem hw
    · exact (get?_bindVariable ..).trans (if_pos (.inr rfl))

/-- An iteration binds its names as it begins. -/
theorem boundIn_enter {l : Loop} (hl : l.WellNamed) (c : Context) (separator : String)
    (element : Value × Value) :
    (⟨c.next, l, element⟩ : Iteration).BoundIn (c.enter l separator element) := by
  constructor
  · intro v (hv : l.index = some v)
    have hitem : l.item ≠ some v := by
      intro hitem
      exact absurd hl.nodup (by simp [Loop.names, hitem, hv])
    rw [Bindings.get?_iterationName]
    exact (Context.get?_enter (.inr hv) hl.notIteration ..).trans (congrArg some (if_neg hitem))
  · intro v hv
    rw [Bindings.get?_iterationName]
    exact (Context.get?_enter (.inl hv) hl.notIteration ..).trans (congrArg some (if_pos hv))

/-- An iteration of a run begins with one of its steps; the iteration names that are bound then stay
bound to the end. -/
theorem exists_kept_of_mem_iterationsOf {steps : List Step} {c : Context}
    (hspares : ∀ step ∈ steps, step.Spares) {i : Iteration} (hi : i ∈ iterationsOf steps c) :
    ∃ (d : Context) (separator : String), .enter i.loop separator i.element ∈ steps ∧
      i.number = d.next ∧ Kept (d.enter i.loop separator i.element) (replay steps c) := by
  induction steps generalizing c with
  | nil => cases hi
  | cons step rest ih =>
    have hrest : ∀ step ∈ rest, step.Spares := (List.forall_mem_cons.1 hspares).2
    rcases List.mem_append.1 hi with hi | hi
    · cases step with
      | enter l separator element =>
        rw [List.mem_singleton.1 hi]
        exact ⟨c, separator, List.mem_cons_self, rfl, kept_replay hrest⟩
      | _ => cases hi
    · obtain ⟨d, separator, hmem, hkept⟩ := ih hrest hi
      exact ⟨d, separator, List.mem_cons_of_mem _ hmem, hkept⟩

/-- What an iteration of a run binds is bound when the run ends. -/
theorem boundIn_of_mem_iterationsOf {steps : List Step} {c : Context}
    (hspares : ∀ step ∈ steps, step.Spares)
    (hnames : ∀ l separator element, .enter l separator element ∈ steps → l.WellNamed)
    {i : Iteration} (hi : i ∈ iterationsOf steps c) : i.BoundIn (replay steps c) := by
  obtain ⟨number, loop, element⟩ := i
  obtain ⟨d, separator, hmem, hnumber, hkept⟩ := exists_kept_of_mem_iterationsOf hspares hi
  cases hnumber
  refine (boundIn_enter (hnames _ _ _ hmem) d separator element).of_kept hkept ?_
  rw [Context.enter_next]
  exact Nat.lt_succ_self _

/-! ## The iterations of an expansion -/

/-- Where no loop variable is named like those of iterations, no step binds or removes such a name
but the one that begins an iteration. -/
theorem Step.Arises.spares_of_names {s : Settings} {loops : List Loop} {seen : Context → Prop}
    {step : Step} (h : step.Arises s loops seen)
    (hloops : ∀ l ∈ loops, ∀ name ∈ l.names, ¬ "__frch_".toList <+: name.toList) :
    step.Spares := by
  cases step with
  | test | count | substitute | write | leave => trivial
  | bind name value =>
    obtain ⟨rfl, -⟩ := h
    exact (by decide : ¬ "__frch_".toList <+: "value".toList)
  | unbind name =>
    obtain ⟨l, hl, hname⟩ := h
    exact hloops l hl name hname
  | enter l separator element => exact hloops l h.1

theorem Step.Arises.spares {s : Settings} {loops : List Loop} {seen : Context → Prop} {step : Step}
    (h : step.Arises s loops seen) (hloops : ∀ l ∈ loops, l.WellNamed) : step.Spares :=
  h.spares_of_names fun l hl => (hloops l hl).notIteration

/-- The iterations of an expansion, in the order in which they begin. -/
def Template.iterations (s : Settings) (t : Template) (c : Context) : List Iteration :=
  iterationsOf (t.record s c).steps c

/-- **The names of iterations are fresh and permanent.** The iterations of an expansion have the
numbers from that of its start on. Each is one for an element of a collection that the engine gave
for its loop on the way. The names of its variables are its own, and are bound in the end to the
element and to its position or key. -/
theorem iterations_numbered_and_bound (s : Settings) (t : Template) (c : Context)
    (hnames : ∀ l ∈ t.loops, l.WellNamed) :
    let final := ((t.expand s).applyTo c).2
    let iterations := t.iterations s c
    iterations.map Iteration.number = List.range' c.next iterations.length ∧
      final.next = c.next + iterations.length ∧
      (∀ v w m n, iterationName v m = iterationName w n → v = w ∧ m = n) ∧
      ∀ i ∈ iterations, i.BoundIn final ∧ i.loop ∈ t.loops ∧
        ∃ d collection, Reached (t.record s c).steps c d ∧
          s.engine.collection i.loop.collection d.bindings.lookup = .ok collection ∧
          i.element ∈ collection.elements := by
  intro final iterations
  have hfinal : final = replay (t.record s c).steps c := congrArg Prod.snd (t.applyTo_expand s c)
  obtain ⟨hnumbers, hnext⟩ := numbers_iterationsOf (t.record s c).steps c
  have horigin := t.originates s c
  refine ⟨hnumbers, hfinal ▸ hnext, fun _ _ _ _ => iterationName_inj, fun i hi => ?_⟩
  obtain ⟨separator, henter⟩ := exists_enter_of_mem_iterationsOf hi
  obtain ⟨hl, -, d, collection, hd, hcollection⟩ := horigin _ henter
  refine ⟨?_, hl, d, collection, hd.resolve_left id, hcollection⟩
  rw [hfinal]
  refine boundIn_of_mem_iterationsOf (fun step hstep => (horigin step hstep).spares hnames) ?_ hi
  exact fun l separator element h => hnames l (horigin _ h).1

/-- The second entry of an inner loop over a map, in the second iteration of the outer loop; the
name of the inner variable looks like that of the outer one in its first iteration. -/
theorem iterations_of_nested_loops :
    let template : Template :=
      .loop ⟨"xs", some "a", none, none, none, none⟩
        [.loop ⟨"a", some "a_1", some "a_0", none, none, none⟩ [.text "."]]
    let settings : Settings := ⟨Engine.paths, none⟩
    let c := Context.ofParameter (.map [("xs", .list [.map [("p", .int 1)],
      .map [("p", .int 2), ("q", .int 3)]])]) none
    let final := ((template.expand settings).applyTo c).2
    (∀ l ∈ template.loops, l.WellNamed) ∧ final.next = 5 ∧
      (final.bindings.get? "__frch_a_1_4").map Value.toText = some "3" ∧
      (final.bindings.get? "__frch_a_0_4").map Value.toText = some "q" := by
  intro template settings c final
  have hnames : ∀ l ∈ template.loops, l.WellNamed := by decide
  have hlength : (template.iterations settings c).length = 5 := by decide +kernel
  have hfifth : (template.iterations settings c)[4]?.map
      (fun i => (i.number, i.loop.item, i.loop.index, i.element.1.toText, i.element.2.toText)) =
      some (4, some "a_1", some "a_0", "q", "3") := by decide +kernel
  obtain ⟨-, hnext, -, hbound⟩ := iterations_numbered_and_bound settings template c hnames
  obtain ⟨i, hi, hparts⟩ := Option.map_eq_some_iff.1 hfifth
  obtain ⟨hindex, hitem⟩ := (hbound i (List.mem_of_getElem? hi)).1
  simp only [Prod.mk.injEq] at hparts
  obtain ⟨hnumber, hitemName, hindexName, hposition, helement⟩ := hparts
  rw [hnumber] at hindex hitem
  refine ⟨hnames, hnext.trans (congrArg (c.next + ·) hlength), ?_, ?_⟩
  · exact (congrArg (·.map Value.toText) (hitem "a_1" hitemName)).trans (congrArg some helement)
  · exact (congrArg (·.map Value.toText) (hindex "a_0" hindexName)).trans (congrArg some hposition)

end SqlTemplate
