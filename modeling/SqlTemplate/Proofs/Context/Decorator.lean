import Mathlib.Logic.Basic
import SqlTemplate.Proofs.Context.Handing

/-!
# Layers as decorators

A layer can be seen from the side of the template. There it is a place to write to, like the root of
the expansion, and it answers everything that can be asked of such a place by asking the place
around it; only a fragment it changes on the way. A `Port` is what can be asked of a place,
`Port.root` is that of a context, and `Port.decorated` puts a layer around any port, whatever is
behind it.

**Theorem (`decorators_transparent`).** Take any calls, at the root or inside layers that are put
around it and taken away again in nested order. All answers but those about the SQL, the bindings
and the next number at the end are what they are when all calls go to the root in that order; the
numbers that are given out are consecutive. And the stack of layers that a context carries is this
stack of decorators: the calls are an expansion, with `Expansion.inside` for each layer.

The proof goes by one law for each of the seven things that can be asked. `Port.Implements` says
that a port does to its context what the context does itself, and putting a layer around a port
keeps it (`implements_decorated`). What is left is that no call on a context but one about its SQL
looks at its SQL or its layers (`SameCore`).
-/

namespace SqlTemplate

/-! ## Places to write to -/

/-- What can be asked of a place that a template writes to, with a state of type `σ`. -/
structure Port (σ : Type) where
  bindings : σ → Bindings
  bind : String → Value → σ → σ
  /-- Removes a name from the table and gives the value that it had there. -/
  unbind : String → σ → Option Value × σ
  append : String → σ → σ
  sql : σ → String
  takeNumber : σ → Nat × σ
  engine : σ → Engine

namespace Port

/-- A context as a place to write to. -/
def root (engine : Engine) : Port Context where
  bindings c := c.bindings
  bind name value c := c.bind name value
  unbind name c := (Keyed.get? name c.bindings.table, c.unbind name)
  append sql c := c.append sql
  sql c := c.sql
  takeNumber c := (c.next, { c with next := c.next + 1 })
  engine _ := engine

/-- A layer around a port: what is written goes through the layer, and all else is passed on. -/
def decorated {σ : Type} (port : Port σ) : Port (Layer × σ) where
  bindings s := port.bindings s.2
  bind name value s := (s.1, port.bind name value s.2)
  unbind name s := ((port.unbind name s.2).1, s.1, (port.unbind name s.2).2)
  append sql s :=
    ((s.1.through sql).1,
      (s.1.through sql).2.foldl (fun inner fragment => port.append fragment inner) s.2)
  sql s := port.sql s.2
  takeNumber s := ((port.takeNumber s.2).1, s.1, (port.takeNumber s.2).2)
  engine s := port.engine s.2

end Port

/-! ## Calls -/

/-- A call on a port. -/
inductive Call where
  | bind (name : String) (value : Value)
  | unbind (name : String)
  | append (sql : String)
  | takeNumber
  | sql
  /-- Reads all bindings, in which every name can then be looked up. -/
  | bindings
  | value (expression : String)
  | condition (expression : String)
  | collection (expression : String)

/-- The answer to a call. -/
inductive Answer where
  | done
  | removed (value : Option Value)
  | number (n : Nat)
  | sql (text : String)
  | bindings (b : Bindings)
  | value (result : Except Error Value)
  | condition (result : Except Error Bool)
  | collection (result : Except Error Collection)

/-- An answer without the SQL, if it tells it. -/
def Answer.withoutSql : Answer → Answer
  | sql _ => done
  | answer => answer

/-- The number that an answer gives out. -/
def Answer.number? : Answer → Option Nat
  | number n => some n
  | _ => none

namespace Port

variable {σ : Type} (port : Port σ)

/-- Answers a call. -/
def answer (call : Call) (s : σ) : Answer × σ :=
  let scope := (port.bindings s).lookup
  match call with
  | .bind name value => (.done, port.bind name value s)
  | .unbind name => (.removed (port.unbind name s).1, (port.unbind name s).2)
  | .append sql => (.done, port.append sql s)
  | .takeNumber => (.number (port.takeNumber s).1, (port.takeNumber s).2)
  | .sql => (.sql (port.sql s), s)
  | .bindings => (.bindings (port.bindings s), s)
  | .value expression => (.value ((port.engine s).value expression scope), s)
  | .condition expression => (.condition ((port.engine s).condition expression scope), s)
  | .collection expression => (.collection ((port.engine s).collection expression scope), s)

/-- Answers calls one after another. -/
def answerAll : List Call → σ → List Answer × σ
  | [], s => ([], s)
  | call :: rest, s =>
    let (first, s) := port.answer call s
    let (more, s) := answerAll rest s
    (first :: more, s)

end Port

/-- Calls, some of them inside layers that are put around the place and taken away again. -/
inductive Script where
  | done
  | call (call : Call) (rest : Script)
  | decorate (layer : Layer) (inner rest : Script)

namespace Script

/-- The calls of a script in order, without its layers. -/
def calls : Script → List Call
  | done => []
  | call c rest => c :: rest.calls
  | decorate _ inner rest => inner.calls ++ rest.calls

/-- Runs a script on a port, each call at its own place. -/
def run : Script → {σ : Type} → Port σ → σ → List Answer × σ
  | done, _, _, s => ([], s)
  | call c rest, _, port, s =>
    let (first, s) := port.answer c s
    let (more, s) := rest.run port s
    (first :: more, s)
  | decorate layer inner rest, _, port, s =>
    let (answers, _, s) := inner.run port.decorated (layer, s)
    let (more, s) := rest.run port s
    (answers ++ more, s)

end Script

/-! ## Scripts as expansions -/

/-- A call as an expansion. -/
def Call.toExpansion (engine : Engine) : Call → Expansion Answer
  | .bind name bound => do
    modify fun c => c.bind name bound
    return .done
  | .unbind name => do
    let removed := Keyed.get? name (← get).bindings.table
    modify fun c => c.unbind name
    return .removed removed
  | .append text => do
    modify fun c => c.append text
    return .done
  | .takeNumber => return .number (← Expansion.takeNumber)
  | .sql => return .sql (← get).sql
  | .bindings => return .bindings (← get).bindings
  | .value expression => return .value (engine.value expression (← get).bindings.lookup)
  | .condition expression => return .condition (engine.condition expression (← get).bindings.lookup)
  | .collection expression =>
    return .collection (engine.collection expression (← get).bindings.lookup)

/-- A script as an expansion: each layer is one of the context. -/
def Script.toExpansion (engine : Engine) : Script → Expansion (List Answer)
  | done => pure []
  | call c rest => do
    let first ← c.toExpansion engine
    let more ← rest.toExpansion engine
    return first :: more
  | decorate layer inner rest => do
    let (answers, _) ← Expansion.inside [layer] (inner.toExpansion engine)
    let more ← rest.toExpansion engine
    return answers ++ more

/-! ## One law for each thing that can be asked -/

namespace Port

/-- A port does to the context that it stands for what the context does itself. -/
structure Implements {σ : Type} (port : Port σ) (engine : Engine) (view : σ → Context) : Prop where
  bindings : ∀ s, port.bindings s = (view s).bindings
  bind : ∀ name value s, view (port.bind name value s) = (view s).bind name value
  removed : ∀ name s, (port.unbind name s).1 = Keyed.get? name (view s).bindings.table
  unbind : ∀ name s, view (port.unbind name s).2 = (view s).unbind name
  append : ∀ sql s, view (port.append sql s) = (view s).append sql
  sql : ∀ s, port.sql s = (view s).sql
  number : ∀ s, (port.takeNumber s).1 = (view s).next
  takeNumber : ∀ s, view (port.takeNumber s).2 = { view s with next := (view s).next + 1 }
  engine : ∀ s, port.engine s = engine

theorem implements_root (engine : Engine) : (root engine).Implements engine id :=
  ⟨fun _ => rfl, fun _ _ _ => rfl, fun _ _ => rfl, fun _ _ => rfl, fun _ _ => rfl, fun _ => rfl,
    fun _ => rfl, fun _ => rfl, fun _ => rfl⟩

variable {σ : Type} {port : Port σ} {engine : Engine} {view : σ → Context}

/-- A layer around a context. -/
def viewInside (view : σ → Context) (s : Layer × σ) : Context :=
  { view s.2 with layers := s.1 :: (view s.2).layers }

theorem Implements.foldl_append (h : port.Implements engine view) (fragments : List String)
    (s : σ) : view (fragments.foldl (fun s fragment => port.append fragment s) s) =
      (view s).hand fragments := by
  induction fragments generalizing s with
  | nil => rfl
  | cons sql rest ih => rw [List.foldl_cons, ih, h.append]; rfl

/-- **A layer around a port is a layer around its context.** -/
theorem implements_decorated (h : port.Implements engine view) :
    port.decorated.Implements engine (viewInside view) where
  bindings s := h.bindings s.2
  bind name value s := by simp only [viewInside, decorated, h.bind]; rfl
  removed name s := h.removed name s.2
  unbind name s := by simp only [viewInside, decorated, h.unbind]; rfl
  append sql s := by
    obtain ⟨layer, s⟩ := s
    -- The context is the one layer inside the context that is around it.
    let alone : Context := { view s with layers := [layer] }
    have hthrough :
        Layer.pass [layer] [sql] = ([(layer.through sql).1], (layer.through sql).2) := by
      simp only [Layer.pass, Layer.throughAll, List.append_nil]
    have hwithin : viewInside view (layer, s) = alone.within (view s) := rfl
    rw [hwithin, Context.append_within, hthrough]
    simp only [viewInside, decorated, h.foldl_append, Context.hand_eq, Context.within,
      Context.append, alone, hthrough]
    rfl
  sql s := h.sql s.2
  number s := h.number s.2
  takeNumber s := by simp only [viewInside, decorated, h.takeNumber]
  engine s := h.engine s.2

/-- A port answers a call as its context does. -/
theorem Implements.answer (h : port.Implements engine view) (call : Call) (s : σ) :
    (port.answer call s).1 = ((root engine).answer call (view s)).1 ∧
      view (port.answer call s).2 = ((root engine).answer call (view s)).2 := by
  cases call with
  | bind name value => exact ⟨rfl, h.bind name value s⟩
  | unbind name => exact ⟨congrArg Answer.removed (h.removed name s), h.unbind name s⟩
  | append sql => exact ⟨rfl, h.append sql s⟩
  | takeNumber => exact ⟨congrArg Answer.number (h.number s), h.takeNumber s⟩
  | sql => exact ⟨congrArg Answer.sql (h.sql s), rfl⟩
  | bindings => exact ⟨congrArg Answer.bindings (h.bindings s), rfl⟩
  | value expression => simp [Port.answer, h.bindings, h.engine, root]
  | condition expression => simp [Port.answer, h.bindings, h.engine, root]
  | collection expression => simp [Port.answer, h.bindings, h.engine, root]

end Port

theorem Call.applyTo_toExpansion (engine : Engine) (call : Call) (c : Context) :
    (call.toExpansion engine).applyTo c =
      (.ok ((Port.root engine).answer call c).1, ((Port.root engine).answer call c).2) := by
  cases call <;> rfl

/-- **Layers of a context are decorators.** A script that runs on a port is an expansion of the
context that the port stands for. -/
theorem Script.applyTo_toExpansion {σ : Type} {port : Port σ} {engine : Engine}
    {view : σ → Context} (h : port.Implements engine view) (script : Script) (s : σ) :
    (script.toExpansion engine).applyTo (view s) =
      (.ok (script.run port s).1, view (script.run port s).2) := by
  induction script generalizing σ with
  | done => rfl
  | call c rest ih =>
    obtain ⟨hanswer, hview⟩ := h.answer c s
    rw [toExpansion, Expansion.applyTo_bind, Call.applyTo_toExpansion, ← hanswer, ← hview]
    dsimp only
    rw [Expansion.applyTo_bind, ih h]
    rfl
  | decorate layer inner rest ihInner ihRest =>
    have hinner := ihInner (Port.implements_decorated h) (layer, s)
    have hinside : (Expansion.inside [layer] (inner.toExpansion engine)).applyTo (view s) =
        (.ok ((inner.run port.decorated (layer, s)).1, [(inner.run port.decorated (layer, s)).2.1]),
          view (inner.run port.decorated (layer, s)).2.2) :=
      congrArg (fun r => (r.1.map (·, r.2.layers.take 1), { r.2 with layers := r.2.layers.drop 1 }))
        hinner
    rw [toExpansion, Expansion.applyTo_bind, hinside]
    dsimp only
    rw [Expansion.applyTo_bind, ihRest h]
    rfl

/-! ## Calls do not look at layers -/

/-- Contexts with the same bindings and the same next number. -/
structure SameCore (c d : Context) : Prop where
  bindings : c.bindings = d.bindings
  next : c.next = d.next

/-- A call is answered in the same way whatever the SQL and the layers are. -/
theorem SameCore.answer {c d : Context} (h : SameCore c d) (engine : Engine) (call : Call) :
    ((Port.root engine).answer call c).1.withoutSql =
        ((Port.root engine).answer call d).1.withoutSql ∧
      SameCore ((Port.root engine).answer call c).2 ((Port.root engine).answer call d).2 := by
  obtain ⟨hbindings, hnext⟩ := h
  cases call with
  | bind name value =>
    exact ⟨rfl, congrArg (Bindings.bind · name value) hbindings, hnext⟩
  | unbind name =>
    refine ⟨?_, congrArg (Bindings.unbind · name) hbindings, hnext⟩
    exact congrArg (fun b => Answer.removed (Keyed.get? name (Bindings.table b))) hbindings
  | append sql => exact ⟨rfl, hbindings, hnext⟩
  | takeNumber => exact ⟨congrArg Answer.number hnext, hbindings, congrArg (· + 1) hnext⟩
  | sql => exact ⟨rfl, hbindings, hnext⟩
  | bindings => exact ⟨congrArg Answer.bindings hbindings, hbindings, hnext⟩
  | value expression =>
    refine ⟨?_, hbindings, hnext⟩
    exact congrArg (fun b => Answer.value (engine.value expression (Bindings.lookup b))) hbindings
  | condition expression =>
    refine ⟨?_, hbindings, hnext⟩
    exact congrArg (fun b => Answer.condition (engine.condition expression (Bindings.lookup b)))
      hbindings
  | collection expression =>
    refine ⟨?_, hbindings, hnext⟩
    exact congrArg (fun b => Answer.collection (engine.collection expression (Bindings.lookup b)))
      hbindings

theorem Port.answerAll_append {σ : Type} (port : Port σ) (before after : List Call) (s : σ) :
    port.answerAll (before ++ after) s =
      ((port.answerAll before s).1 ++ (port.answerAll after (port.answerAll before s).2).1,
        (port.answerAll after (port.answerAll before s).2).2) := by
  induction before generalizing s with
  | nil => rfl
  | cons call rest ih => simp only [List.cons_append, Port.answerAll, ih]

/-- A script gets the answers that its calls get without any layer. -/
theorem Script.run_eq_answerAll {σ : Type} {port : Port σ} {engine : Engine} {view : σ → Context}
    (h : port.Implements engine view) (script : Script) {s : σ} {c : Context}
    (hsame : SameCore (view s) c) :
    (script.run port s).1.map Answer.withoutSql =
        ((Port.root engine).answerAll script.calls c).1.map Answer.withoutSql ∧
      SameCore (view (script.run port s).2) ((Port.root engine).answerAll script.calls c).2 := by
  induction script generalizing σ s c with
  | done => exact ⟨rfl, hsame⟩
  | call first rest ih =>
    obtain ⟨hanswer, hview⟩ := h.answer first s
    obtain ⟨hfirst, hcore⟩ := hsame.answer engine first
    obtain ⟨hmore, hend⟩ := ih h (hview ▸ hcore)
    refine ⟨?_, hend⟩
    exact congrArg₂ List.cons ((congrArg Answer.withoutSql hanswer).trans hfirst) hmore
  | decorate layer inner rest ihInner ihRest =>
    obtain ⟨hinner, hcore⟩ := ihInner (Port.implements_decorated h) (s := (layer, s)) (c := c)
      ⟨hsame.bindings, hsame.next⟩
    obtain ⟨hmore, hend⟩ := ihRest h (s := (inner.run port.decorated (layer, s)).2.2)
      ⟨hcore.bindings, hcore.next⟩
    rw [calls, Port.answerAll_append]
    refine ⟨?_, hend⟩
    exact (List.map_append ..).trans ((congrArg₂ (· ++ ·) hinner hmore).trans List.map_append.symm)

/-- The numbers that a context gives out are consecutive. -/
theorem Port.numbers_answerAll (engine : Engine) (calls : List Call) (c : Context) :
    let numbers := ((root engine).answerAll calls c).1.filterMap Answer.number?
    numbers = List.range' c.next numbers.length ∧
      ((root engine).answerAll calls c).2.next = c.next + numbers.length := by
  induction calls generalizing c with
  | nil => exact ⟨rfl, rfl⟩
  | cons call rest ih =>
    obtain ⟨hnumbers, hnext⟩ := ih ((root engine).answer call c).2
    cases call with
    | takeNumber =>
      refine ⟨congrArg (c.next :: ·) hnumbers, hnext.trans ?_⟩
      exact Nat.add_right_comm c.next 1 _
    | _ => exact ⟨hnumbers, hnext⟩

theorem Answer.number?_withoutSql (answer : Answer) :
    answer.withoutSql.number? = answer.number? := by
  cases answer <;> rfl

/-- **Decorators are transparent but for SQL.** The calls of a script get the same answers, except
about the SQL, and leave the same bindings and the same next number as when all of them go to the
root. The numbers given out are consecutive. A context with its layers runs the script in the same
way as the decorators. -/
theorem decorators_transparent (engine : Engine) (script : Script) (c : Context) :
    let nested := script.run (Port.root engine) c
    let direct := (Port.root engine).answerAll script.calls c
    let numbers := nested.1.filterMap Answer.number?
    nested.1.map Answer.withoutSql = direct.1.map Answer.withoutSql ∧
      nested.2.bindings = direct.2.bindings ∧ nested.2.next = direct.2.next ∧
      numbers = List.range' c.next numbers.length ∧ nested.2.next = c.next + numbers.length ∧
      (script.toExpansion engine).applyTo c = (.ok nested.1, nested.2) := by
  intro nested direct numbers
  obtain ⟨hanswers, hbindings, hnext⟩ :
      nested.1.map Answer.withoutSql = direct.1.map Answer.withoutSql ∧
        SameCore nested.2 direct.2 :=
    script.run_eq_answerAll (Port.implements_root engine) (s := c) ⟨rfl, rfl⟩
  obtain ⟨hnumbers, hcount⟩ := Port.numbers_answerAll engine script.calls c
  have hsame : numbers = direct.1.filterMap Answer.number? := by
    have hmap := congrArg (List.filterMap Answer.number?) hanswers
    simpa only [List.filterMap_map, Function.comp_def, Answer.number?_withoutSql] using hmap
  refine ⟨hanswers, hbindings, hnext, ?_, ?_, ?_⟩
  · rw [hsame]
    exact hnumbers
  · rw [hsame]
    exact hnext.trans hcount
  · exact script.applyTo_toExpansion (Port.implements_root engine) c

end SqlTemplate
