import SqlTemplate.Template.Expand

/-!
# Expansions step by step

An expansion changes its context in a handful of ways. A `Step` is one of them, or the outcome of
a question that decides how the expansion goes on: a test, the size of a collection, the text of a
substitution. `replay` takes a list of steps to the context that they lead to.

`Template.record` goes through a template as `Template.expand` does and gives the list of its steps
beside the result. A step never looks back, so the context that a step finds is the replay of the
steps before it.

**Theorem (`applyTo_expand`).** The result of an expansion is the recorded one, and the context
that it leaves, also when it fails, is the replay of the recorded steps.

What one step keeps is therefore kept by a whole expansion, by induction on a list; and two
expansions are compared by comparing two lists.
-/

namespace SqlTemplate

/-! ## Steps -/

/-- One thing that an expansion does or finds out. -/
inductive Step where
  /-- A test holds or does not hold. -/
  | test (holds : Bool)
  /-- A collection has this many elements. -/
  | count (size : Nat)
  /-- A text has been computed for a substitution. -/
  | substitute (expression text : String)
  | bind (name : String) (value : Value)
  | write (text : String)
  /-- An iteration begins, for an element with its position or key before it. -/
  | enter (loop : Loop) (separator : String) (element : Value × Value)
  /-- An iteration ends, or is given up. -/
  | leave
  | unbind (name : String)

namespace Context

/-- Binds a value to the name of a loop variable and to its name in an iteration. -/
def bindVariable (c : Context) (name : Option String) (value : Value) (number : Nat) : Context :=
  match name with
  | some name => (c.bind (Renaming.iterationName name number) value).bind name value
  | none => c

@[simp] theorem bindVariable_sql (c : Context) (name : Option String) (value : Value)
    (number : Nat) : (c.bindVariable name value number).sql = c.sql := by cases name <;> rfl

@[simp] theorem bindVariable_next (c : Context) (name : Option String) (value : Value)
    (number : Nat) : (c.bindVariable name value number).next = c.next := by cases name <;> rfl

@[simp] theorem bindVariable_layers (c : Context) (name : Option String) (value : Value)
    (number : Nat) : (c.bindVariable name value number).layers = c.layers := by cases name <;> rfl

/-- Begins an iteration: takes its number, binds its variables, adds its two layers. -/
def enter (c : Context) (l : Loop) (separator : String) (element : Value × Value) : Context :=
  let bound := (({ c with next := c.next + 1 } : Context).bindVariable l.index element.1
    c.next).bindVariable l.item element.2 c.next
  { bound with
    layers := .rename ⟨l.item, l.index, c.next⟩ :: .separator separator false :: bound.layers }

@[simp] theorem enter_sql (c : Context) (l : Loop) (separator : String) (element : Value × Value) :
    (c.enter l separator element).sql = c.sql := by simp [enter]

@[simp] theorem enter_next (c : Context) (l : Loop) (separator : String) (element : Value × Value) :
    (c.enter l separator element).next = c.next + 1 := by simp [enter]

@[simp] theorem enter_layers (c : Context) (l : Loop) (separator : String)
    (element : Value × Value) :
    (c.enter l separator element).layers =
      .rename ⟨l.item, l.index, c.next⟩ :: .separator separator false :: c.layers := by
  simp [enter]

/-- Ends an iteration: takes its two layers away. -/
def leave (c : Context) : Context := { c with layers := c.layers.drop 2 }

end Context

namespace Step

/-- The context after a step. -/
def apply (step : Step) (c : Context) : Context :=
  match step with
  | test _ | count _ | substitute _ _ => c
  | bind name value => c.bind name value
  | write text => c.append text
  | enter l separator element => c.enter l separator element
  | leave => c.leave
  | unbind name => c.unbind name

end Step

/-- The context after these steps. -/
def replay (steps : List Step) (c : Context) : Context :=
  steps.foldl (fun c step => step.apply c) c

@[simp] theorem replay_nil (c : Context) : replay [] c = c := rfl

@[simp] theorem replay_cons (step : Step) (rest : List Step) (c : Context) :
    replay (step :: rest) c = replay rest (step.apply c) := rfl

@[simp] theorem replay_append (before after : List Step) (c : Context) :
    replay (before ++ after) c = replay after (replay before c) := List.foldl_append

/-! ## Runs -/

/-- The steps of a program from one context, and what comes of it. -/
structure Run (α : Type) where
  steps : List Step
  result : Except Error α

/-- A program that keeps a list of its steps. -/
def Recorded (α : Type) := Context → Run α

namespace Recorded

variable {α β : Type}

/-- Goes on after a run with the context that it leaves, unless it has failed. -/
def andThen (r : Recorded α) (f : α → Recorded β) : Recorded β := fun c =>
  match (r c).result with
  | .error e => ⟨(r c).steps, .error e⟩
  | .ok a =>
    let rest := f a (replay (r c).steps c)
    ⟨(r c).steps ++ rest.steps, rest.result⟩

instance : Monad Recorded where
  pure a := fun _ => ⟨[], .ok a⟩
  bind := andThen

/-- Takes one step. -/
def take (step : Step) : Recorded Unit := fun _ => ⟨[step], .ok ()⟩

/-- The context as it is. -/
def look : Recorded Context := fun c => ⟨[], .ok c⟩

/-- Stops with an error, or goes on with an answer. -/
def ofExcept (answer : Except Error α) : Recorded α := fun _ => ⟨[], answer⟩

/-- Asks an engine in the scope of the context. -/
def ask (question : Scope → Except Error α) : Recorded α := fun c =>
  ⟨[], question c.bindings.lookup⟩

/-- Runs the body of an iteration and ends the iteration, also where the body fails; tells whether
the iteration wrote anything not blank. -/
def closing (body : Recorded Unit) : Recorded Bool := fun c =>
  ⟨(body c).steps ++ [.leave],
    (body c).result.map fun _ => ((replay (body c).steps c).layers.take 2).any Layer.isApplied⟩

theorem bind_of_error {r : Recorded α} {f : α → Recorded β} {c : Context} {e : Error}
    (h : (r c).result = .error e) : (r >>= f) c = ⟨(r c).steps, .error e⟩ := by
  show andThen r f c = _
  rw [andThen, h]

theorem bind_of_ok {r : Recorded α} {f : α → Recorded β} {c : Context} {a : α}
    (h : (r c).result = .ok a) :
    (r >>= f) c = ⟨(r c).steps ++ (f a (replay (r c).steps c)).steps,
      (f a (replay (r c).steps c)).result⟩ := by
  show andThen r f c = _
  rw [andThen, h]

theorem steps_bind (r : Recorded α) (f : α → Recorded β) (c : Context) :
    ∃ more, ((r >>= f) c).steps = (r c).steps ++ more := by
  cases hr : (r c).result with
  | error e => exact ⟨[], by rw [bind_of_error hr, List.append_nil]⟩
  | ok a => exact ⟨_, by rw [bind_of_ok hr]⟩

/-- A run that succeeds in two parts succeeds in each. -/
theorem bind_eq_ok {r : Recorded α} {f : α → Recorded β} {c : Context} {b : β}
    (h : ((r >>= f) c).result = .ok b) :
    ∃ a, (r c).result = .ok a ∧ (f a (replay (r c).steps c)).result = .ok b := by
  cases hr : (r c).result with
  | error e => rw [bind_of_error hr] at h; cases h
  | ok a => rw [bind_of_ok hr] at h; exact ⟨a, rfl, h⟩

theorem take_bind_apply (step : Step) (f : Unit → Recorded β) (c : Context) :
    (take step >>= f) c = ⟨step :: (f () (step.apply c)).steps, (f () (step.apply c)).result⟩ :=
  rfl

theorem ask_bind_apply (question : Scope → Except Error α) (f : α → Recorded β) (c : Context) :
    (ask question >>= f) c =
      match question c.bindings.lookup with
      | .error e => ⟨[], .error e⟩
      | .ok a => f a c := by
  show andThen (ask question) f c = _
  rw [andThen, ask]
  cases question c.bindings.lookup <;> rfl

theorem look_bind_apply (f : Context → Recorded β) (c : Context) : (look >>= f) c = f c c := rfl

end Recorded

theorem Collection.length_elements (collection : Collection) :
    collection.elements.length = collection.size := by
  cases collection <;> simp [Collection.elements, Collection.size]

/-! ## The steps of a template -/

/-- Whether the filter, if there is one, lets a text pass. -/
def Settings.passes (s : Settings) (text : String) : Bool := s.filter.all (· text)

/-- The steps that put texts in the place of the spans; gives the literals with these texts. -/
def Settings.recordSpans (s : Settings) : List Span → Recorded (List String)
  | [] => pure []
  | span :: rest => do
    let expression := String.ofList span.content
    let value ← Recorded.ask (s.engine.value expression)
    Recorded.take (.substitute expression value.substitution)
    if s.passes value.substitution then do
      let texts ← s.recordSpans rest
      return (String.ofList span.lead ++ value.substitution) :: texts
    else Recorded.ofExcept (.error (.rejectedSubstitution expression value.substitution))

namespace Template

/-- The steps that write a text with its substitutions. -/
def recordSubstituted (s : Settings) (split : Split) : Recorded Unit := do
  let texts ← s.recordSpans split.spans
  Recorded.take (.write (String.join texts ++ String.ofList (split.tail.getD [])))

/-- The steps of a text. -/
def recordText (s : Settings) (text : String) : Recorded Unit :=
  if isDynamic text then do
    let parameter := (← Recorded.look).bindings.parameter
    if parameter.isScalar then Recorded.take (.bind "value" parameter)
    recordSubstituted s (Markers.substitution.split text)
  else Recorded.take (.write text)

end Template

namespace Loop

/-- The steps of one iteration. -/
def recordElement (l : Loop) (body : Recorded Unit) (isFirst : Bool) (element : Value × Value) :
    Recorded Bool := do
  Recorded.take (.enter l (if isFirst then "" else l.separator.getD "") element)
  body.closing

/-- The steps of the iterations for these elements. -/
def recordElements (l : Loop) (body : Recorded Unit) (isFirst : Bool) :
    List (Value × Value) → Recorded Unit
  | [] => pure ()
  | element :: rest => do
    let written ← l.recordElement body isFirst element
    l.recordElements body (isFirst && !written) rest

/-- The step for a text or a name that a loop may have. -/
def recordOptional (step : String → Step) (text : Option String) : Recorded Unit :=
  match text with
  | some text => Recorded.take (step text)
  | none => pure ()

/-- The steps of a loop with this body. -/
def record (s : Settings) (l : Loop) (body : Recorded Unit) : Recorded Unit := do
  let collection ← Recorded.ask (s.engine.collection l.collection)
  Recorded.take (.count collection.size)
  if collection.size = 0 then pure ()
  else
    recordOptional .write l.opening
    l.recordElements body true collection.elements
    recordOptional .write l.closing
    recordOptional .unbind l.item
    recordOptional .unbind l.index

end Loop

namespace Template

mutual

/-- The steps of a template. -/
def record (s : Settings) : Template → Recorded Bool
  | text t => do
    recordText s t
    return true
  | mixed parts => do
    recordAll s parts
    return true
  | condition test contents => do
    let holds ← Recorded.ask (s.engine.condition test)
    Recorded.take (.test holds)
    if holds then
      recordAll s contents
      return true
    else return false
  | loop l contents => do
    l.record s (recordAll s contents)
    return true

/-- The steps of templates one after another. -/
def recordAll (s : Settings) : List Template → Recorded Unit
  | [] => pure ()
  | part :: rest => do
    let _ ← record s part
    recordAll s rest

end

end Template

/-! ## An expansion is the replay of its steps -/

namespace Recorded

variable {α β : Type}

/-- The expansion that does these steps. -/
def toExpansion (r : Recorded α) : Expansion α :=
  ExceptT.mk fun c => ((r c).result, replay (r c).steps c)

@[simp] theorem applyTo_toExpansion (r : Recorded α) (c : Context) :
    r.toExpansion.applyTo c = ((r c).result, replay (r c).steps c) := rfl

theorem toExpansion_bind (r : Recorded α) (f : α → Recorded β) :
    (r >>= f).toExpansion = r.toExpansion >>= fun a => (f a).toExpansion := by
  funext c
  show (r >>= f).toExpansion.applyTo c = (r.toExpansion >>= fun a => (f a).toExpansion).applyTo c
  rw [Expansion.applyTo_bind, applyTo_toExpansion, applyTo_toExpansion]
  cases hr : (r c).result with
  | error e => rw [bind_of_error hr]
  | ok a => rw [bind_of_ok hr]; simp only [replay_append, applyTo_toExpansion]

theorem toExpansion_look : look.toExpansion = get := rfl

theorem toExpansion_ask (question : Scope → Except Error α) :
    (ask question).toExpansion = Settings.ask question := by
  funext c
  show (question c.bindings.lookup, c) = (Settings.ask question).applyTo c
  rw [Settings.ask, Expansion.applyTo_bind, Expansion.applyTo_get]
  dsimp only
  cases question c.bindings.lookup <;> rfl

theorem toExpansion_enter (l : Loop) (separator : String) (element : Value × Value) :
    (take (.enter l separator element)).toExpansion = (do
      let number ← Expansion.takeNumber
      Loop.bindVariable l.index element.1 number
      Loop.bindVariable l.item element.2 number
      modify fun c => { c with
        layers :=
          [.rename ⟨l.item, l.index, number⟩, .separator separator false] ++ c.layers }) := by
  obtain ⟨collection, item, index, opening, closing, between⟩ := l
  cases item <;> cases index <;> rfl

theorem toExpansion_recordOptional (step : String → Step) (text : Option String) :
    (Loop.recordOptional step text).toExpansion =
      match text with
      | some text => modify (step text).apply
      | none => pure () := by
  cases text <;> rfl

end Recorded

namespace Settings

theorem substitute_of_ok {s : Settings} {scope : Scope} {expression : String} {value : Value}
    (h : s.engine.value expression scope = .ok value) :
    s.substitute scope expression =
      if s.passes value.substitution then .ok value.substitution
      else .error (.rejectedSubstitution expression value.substitution) := by
  obtain ⟨engine, filter⟩ := s
  rw [substitute, h]
  cases filter <;> rfl

theorem substitute_of_error {s : Settings} {scope : Scope} {expression : String} {e : Error}
    (h : s.engine.value expression scope = .error e) :
    s.substitute scope expression = .error e := by
  rw [substitute, h]
  rfl

/-- A span with its literal before it, the text of its substitution in its place. -/
def fill (s : Settings) (scope : Scope) (span : Span) : Except Error String := do
  let text ← s.substitute scope (String.ofList span.content)
  return String.ofList span.lead ++ text

/-- The texts of the spans leave the context as it is, and end as the substitutions do. -/
theorem applyTo_recordSpans (s : Settings) (spans : List Span) (c : Context) :
    (s.recordSpans spans).toExpansion.applyTo c = (spans.mapM (s.fill c.bindings.lookup), c) := by
  induction spans with
  | nil => rfl
  | cons span rest ih =>
    rw [Recorded.applyTo_toExpansion] at ih ⊢
    obtain ⟨hresult, hcontext⟩ := Prod.mk.inj ih
    rw [recordSpans, Recorded.ask_bind_apply, List.mapM_cons, fill]
    cases h : s.engine.value (String.ofList span.content) c.bindings.lookup with
    | error e => rw [substitute_of_error h]; rfl
    | ok value =>
      rw [substitute_of_ok h, ← hresult]
      dsimp only
      rw [Recorded.take_bind_apply]
      split
      · cases hr : (s.recordSpans rest c).result with
        | error e =>
          rw [Step.apply, Recorded.bind_of_error hr, replay_cons, Step.apply, hcontext]
          rfl
        | ok texts =>
          rw [Step.apply, Recorded.bind_of_ok hr, replay_cons, replay_append, Step.apply, hcontext]
          rfl
      · rfl

end Settings

/-- Ending an iteration by hand is running its body inside two layers. -/
theorem Recorded.toExpansion_closing (inner outer : Layer) (body : Recorded Unit) :
    (do
      modify fun c => { c with layers := [inner, outer] ++ c.layers }
      body.closing.toExpansion) =
      (do
        let (_, layers) ← Expansion.inside [inner, outer] body.toExpansion
        return layers.any Layer.isApplied) := by
  funext c
  show Expansion.applyTo _ c = Expansion.applyTo _ c
  rw [Expansion.applyTo_bind, Expansion.applyTo_bind]
  let start : Context := { c with layers := [inner, outer] ++ c.layers }
  have hinside : (Expansion.inside [inner, outer] body.toExpansion).applyTo c =
      ((body start).result.map (·, (replay (body start).steps start).layers.take 2),
        (replay (body start).steps start).leave) := rfl
  rw [hinside, Expansion.applyTo_modify]
  dsimp only
  rw [applyTo_toExpansion, closing, replay_append, replay_cons, replay_nil, Step.apply]
  cases (body start).result <;> rfl

namespace Loop

theorem toExpansion_recordElement (l : Loop) (body : Recorded Unit) (isFirst : Bool)
    (element : Value × Value) :
    (l.recordElement body isFirst element).toExpansion =
      l.expandElement body.toExpansion isFirst element := by
  rw [recordElement, Recorded.toExpansion_bind, Recorded.toExpansion_enter, expandElement]
  simp only [bind_assoc, Recorded.toExpansion_closing]

theorem toExpansion_recordElements (l : Loop) (body : Recorded Unit)
    (elements : List (Value × Value)) (isFirst : Bool) :
    (l.recordElements body isFirst elements).toExpansion =
      l.expandElements body.toExpansion isFirst elements := by
  induction elements generalizing isFirst with
  | nil => rfl
  | cons element rest ih =>
    rw [recordElements, expandElements, Recorded.toExpansion_bind, toExpansion_recordElement]
    simp only [ih]

theorem toExpansion_record (s : Settings) (l : Loop) (body : Recorded Unit) :
    (l.record s body).toExpansion = l.expand s body.toExpansion := by
  rw [record, expand, Recorded.toExpansion_bind, Recorded.toExpansion_ask]
  congr 1
  funext collection
  rw [Recorded.toExpansion_bind]
  show (if collection.size = 0 then _ else _ : Recorded Unit).toExpansion = _
  split
  · rfl
  · simp only [Recorded.toExpansion_bind, Recorded.toExpansion_recordOptional,
      toExpansion_recordElements]
    rfl

end Loop

namespace Template

theorem toExpansion_recordSubstituted (s : Settings) (split : Split) :
    (recordSubstituted s split).toExpansion = (do
      let sql ← Settings.ask fun scope => split.joinM (s.substitute scope)
      modify (·.append sql)) := by
  rw [recordSubstituted, Recorded.toExpansion_bind]
  funext c
  show Expansion.applyTo _ c = Expansion.applyTo _ c
  rw [Expansion.applyTo_bind, Expansion.applyTo_bind, Settings.applyTo_recordSpans,
    ← Recorded.toExpansion_ask, Recorded.applyTo_toExpansion, Recorded.ask]
  have hjoin : split.joinM (s.substitute c.bindings.lookup) = do
      let texts ← split.spans.mapM (s.fill c.bindings.lookup)
      return String.join texts ++ String.ofList (split.tail.getD []) := rfl
  dsimp only
  rw [hjoin]
  cases split.spans.mapM (s.fill c.bindings.lookup) <;> rfl

theorem toExpansion_recordText (s : Settings) (text : String) :
    (recordText s text).toExpansion = expandText s text := by
  rw [recordText, expandText]
  split
  · rw [Recorded.toExpansion_bind, Recorded.toExpansion_look]
    congr 1
    funext c
    dsimp only
    split
    · rw [Recorded.toExpansion_bind, toExpansion_recordSubstituted]
      rfl
    · rw [toExpansion_recordSubstituted]
      rfl
  · rfl

mutual

/-- Recording the steps of a template changes nothing. -/
theorem toExpansion_record (s : Settings) (t : Template) :
    (record s t).toExpansion = expand s t := by
  cases t with
  | text t =>
    rw [record, expand, Recorded.toExpansion_bind, toExpansion_recordText]
    rfl
  | mixed parts =>
    rw [record, expand, Recorded.toExpansion_bind, toExpansion_recordAll s parts]
    rfl
  | condition test contents =>
    rw [record, expand, Recorded.toExpansion_bind, Recorded.toExpansion_ask]
    congr 1
    funext holds
    cases holds with
    | false => rfl
    | true =>
      show (recordAll s contents >>= fun _ => pure true).toExpansion = _
      rw [Recorded.toExpansion_bind, toExpansion_recordAll s contents]
      rfl
  | loop l contents =>
    rw [record, expand, Recorded.toExpansion_bind, Loop.toExpansion_record,
      toExpansion_recordAll s contents]
    rfl

theorem toExpansion_recordAll (s : Settings) (ts : List Template) :
    (recordAll s ts).toExpansion = expandAll s ts := by
  cases ts with
  | nil => rfl
  | cons part rest =>
    rw [recordAll, expandAll, Recorded.toExpansion_bind, toExpansion_record s part,
      toExpansion_recordAll s rest]
    simp [Functor.discard, map_const]

end

/-- **Recording is faithful.** An expansion has the recorded result and leaves the context that
the recorded steps lead to. -/
theorem applyTo_expand (s : Settings) (t : Template) (c : Context) :
    (expand s t).applyTo c = ((record s t c).result, replay (record s t c).steps c) := by
  rw [← toExpansion_record, Recorded.applyTo_toExpansion]

end Template

end SqlTemplate
