import SqlTemplate.Proofs.Expansion.Bound

/-!
# Where the steps of an expansion come from

Every step of an expansion goes back to a place of the template. A name is removed at the end of a
loop that has it; an iteration begins for an element of a collection that the engine gave for its
loop; and nothing else binds a name, but a dynamic text, which may bind the parameter to `value`.

**Theorem (`Template.originates`).** Each step of an expansion, also of one that fails, arises from
the template (`Step.Arises`).

A property of programs that holds of a template because it holds of its texts and of its loops is
`Compositional`; `Template.record_of` goes through the template once for all of them.
-/

namespace SqlTemplate

namespace Template

mutual

/-- The texts of a template, in order. -/
def texts : Template → List String
  | text t => [t]
  | mixed parts => textsAll parts
  | condition _ contents => textsAll contents
  | loop _ contents => textsAll contents

/-- The texts of templates, in order. -/
def textsAll : List Template → List String
  | [] => []
  | part :: rest => part.texts ++ textsAll rest

end

mutual

/-- The loops of a template, each before those inside it. -/
def loops : Template → List Loop
  | text _ => []
  | mixed parts => loopsAll parts
  | condition _ contents => loopsAll contents
  | loop l contents => l :: loopsAll contents

/-- The loops of templates, each before those inside it. -/
def loopsAll : List Template → List Loop
  | [] => []
  | part :: rest => part.loops ++ loopsAll rest

end

end Template

/-! ## Properties that go through a template -/

/-- The steps of a loop over a collection. -/
def Loop.recordOver (l : Loop) (body : Recorded Unit) (collection : Collection) :
    Recorded Unit := do
  Recorded.take (.count collection.size)
  if collection.size = 0 then pure ()
  else
    recordOptional .write l.opening
    l.recordElements body true collection.elements
    recordOptional .write l.closing
    recordOptional .unbind l.item
    recordOptional .unbind l.index

theorem Loop.record_eq (s : Settings) (l : Loop) (body : Recorded Unit) :
    l.record s body = Recorded.ask (s.engine.collection l.collection) >>= l.recordOver body := rfl

/-- A property that a program has if its parts have it, and that no question and no count
affects. -/
structure Compositional (M : {α : Type} → Recorded α → Prop) : Prop where
  pure {α : Type} (a : α) : M (Pure.pure a : Recorded α)
  bind {α β : Type} {p : Recorded α} {next : α → Recorded β} (h : M p) (hnext : ∀ a, M (next a)) :
    M (p >>= next)
  ask {α : Type} (question : Scope → Except Error α) : M (Recorded.ask question)
  test (holds : Bool) : M (Recorded.take (.test holds))
  count (size : Nat) : M (Recorded.take (.count size))

section compositional

variable {M : {α : Type} → Recorded α → Prop} (hM : Compositional M)

include hM

namespace Loop

variable {l : Loop} {body : Recorded Unit}

theorem recordOptional_of {step : String → Step} {text : Option String}
    (h : ∀ t ∈ text, M (Recorded.take (step t))) : M (recordOptional step text) := by
  cases text with
  | none => exact hM.pure ()
  | some t => exact h t rfl

theorem recordElements_of {elements : List (Value × Value)}
    (h : ∀ isFirst, ∀ element ∈ elements, M (l.recordElement body isFirst element))
    (isFirst : Bool) : M (l.recordElements body isFirst elements) := by
  induction elements generalizing isFirst with
  | nil => exact hM.pure ()
  | cons element rest ih =>
    refine hM.bind (h isFirst element List.mem_cons_self) fun written => ?_
    exact ih (fun isFirst e he => h isFirst e (List.mem_cons_of_mem _ he)) _

theorem recordOver_of {collection : Collection}
    (hopening : ∀ text ∈ l.opening, M (Recorded.take (.write text)))
    (hclosing : ∀ text ∈ l.closing, M (Recorded.take (.write text)))
    (hnames : ∀ name ∈ l.names, M (Recorded.take (.unbind name)))
    (helements : ∀ isFirst, ∀ element ∈ collection.elements,
      M (l.recordElement body isFirst element)) :
    M (l.recordOver body collection) := by
  refine hM.bind (hM.count _) fun _ => ?_
  split
  · exact hM.pure ()
  · refine hM.bind (recordOptional_of hM hopening) fun _ => ?_
    refine hM.bind (recordElements_of hM helements true) fun _ => ?_
    refine hM.bind (recordOptional_of hM hclosing) fun _ => ?_
    refine hM.bind (recordOptional_of hM fun name hname => hnames name ?_) fun _ =>
      recordOptional_of hM fun name hname => hnames name ?_
    · exact List.mem_append_left _ (Option.mem_toList.2 hname)
    · exact List.mem_append_right _ (Option.mem_toList.2 hname)

end Loop

namespace Template

variable {s : Settings}

mutual

/-- **What a template has from its texts and loops.** A compositional property that holds of all
texts of a template, and of each loop whose body has it, holds of the template. -/
theorem record_of {t : Template} (htext : ∀ text ∈ t.texts, M (recordText s text))
    (hloop : ∀ l ∈ t.loops, ∀ body, M body → M (l.record s body)) : M (t.record s) := by
  cases t with
  | text text =>
    rw [record]
    exact hM.bind (htext text List.mem_cons_self) fun _ => hM.pure true
  | mixed parts =>
    rw [record]
    exact hM.bind (recordAll_of htext hloop) fun _ => hM.pure true
  | condition test contents =>
    rw [record]
    refine hM.bind (hM.ask _) fun holds => hM.bind (hM.test holds) fun _ => ?_
    split
    · exact hM.bind (recordAll_of htext hloop) fun _ => hM.pure true
    · exact hM.pure false
  | loop l contents =>
    rw [record]
    have hbody : M (recordAll s contents) :=
      recordAll_of htext fun l' hl' => hloop l' (List.mem_cons_of_mem _ hl')
    exact hM.bind (hloop l List.mem_cons_self _ hbody) fun _ => hM.pure true

theorem recordAll_of {ts : List Template} (htext : ∀ text ∈ textsAll ts, M (recordText s text))
    (hloop : ∀ l ∈ loopsAll ts, ∀ body, M body → M (l.record s body)) : M (recordAll s ts) := by
  cases ts with
  | nil => exact hM.pure ()
  | cons part rest =>
    rw [recordAll]
    refine hM.bind (record_of ?_ ?_) fun _ => recordAll_of ?_ ?_
    · exact fun text h => htext text (List.mem_append_left _ h)
    · exact fun l h => hloop l (List.mem_append_left _ h)
    · exact fun text h => htext text (List.mem_append_right _ h)
    · exact fun l h => hloop l (List.mem_append_right _ h)

end

end Template

end compositional

/-! ## Origins -/

/-- The contexts that a run has been through. -/
def Reached (steps : List Step) (c d : Context) : Prop :=
  ∃ before, before <+: steps ∧ d = replay before c

/-- How a step comes about where these loops are expanded and these contexts have been seen. -/
def Step.Arises (s : Settings) (loops : List Loop) (seen : Context → Prop) : Step → Prop
  | bind name value =>
    name = "value" ∧ value.isScalar ∧ ∃ d, seen d ∧ value = d.bindings.parameter
  | enter l separator element =>
    l ∈ loops ∧ (separator = "" ∨ separator ∈ l.separator) ∧
      ∃ d collection, seen d ∧
        s.engine.collection l.collection d.bindings.lookup = .ok collection ∧
        element ∈ collection.elements
  | unbind name => ∃ l ∈ loops, name ∈ l.names
  | _ => True

/-- Every step of a program arises, where the contexts `known` have been seen before it. -/
def Originates (s : Settings) (loops : List Loop) (known : Context → Prop) {α : Type}
    (p : Recorded α) : Prop :=
  ∀ c, ∀ step ∈ (p c).steps, step.Arises s loops fun d => known d ∨ Reached (p c).steps c d

section origins

variable {s : Settings} {loops : List Loop} {known known' : Context → Prop} {α β : Type}

theorem Reached.append_left {steps more : List Step} {c d : Context} (h : Reached steps c d) :
    Reached (steps ++ more) c d := by
  obtain ⟨before, hbefore, rfl⟩ := h
  exact ⟨before, hbefore.trans (List.prefix_append _ _), rfl⟩

theorem Reached.append_right {more : List Step} {c d : Context} (steps : List Step)
    (h : Reached more (replay steps c) d) : Reached (steps ++ more) c d := by
  obtain ⟨before, hbefore, rfl⟩ := h
  exact ⟨steps ++ before, (List.prefix_append_right_inj _).2 hbefore, (replay_append ..).symm⟩

theorem reached_start (steps : List Step) (c : Context) : Reached steps c c :=
  ⟨[], List.nil_prefix, rfl⟩

theorem Step.Arises.mono {step : Step} (h : step.Arises s loops known)
    (hknown : ∀ d, known d → known' d) : step.Arises s loops known' := by
  cases step with
  | bind name value =>
    obtain ⟨hname, hscalar, d, hd, hvalue⟩ := h
    exact ⟨hname, hscalar, d, hknown d hd, hvalue⟩
  | enter l separator element =>
    obtain ⟨hl, hseparator, d, collection, hd, hcollection⟩ := h
    exact ⟨hl, hseparator, d, collection, hknown d hd, hcollection⟩
  | unbind name => exact h
  | test | count | substitute | write | leave => trivial

namespace Originates

variable {p : Recorded α}

theorem mono (h : Originates s loops known p) (hknown : ∀ d, known d → known' d) :
    Originates s loops known' p :=
  fun c step hstep => (h c step hstep).mono fun d hd => hd.imp_left (hknown d)

theorem ofExcept (answer : Except Error α) :
    Originates s loops known (Recorded.ofExcept answer) := nofun

theorem take {step : Step} (h : step.Arises s loops known) :
    Originates s loops known (Recorded.take step) := by
  intro c step' hstep
  rw [List.mem_singleton.1 hstep]
  exact h.mono fun d => .inl

theorem bind {next : α → Recorded β} (h : Originates s loops known p)
    (hnext : ∀ a, Originates s loops known (next a)) : Originates s loops known (p >>= next) := by
  intro c step hstep
  cases hr : (p c).result with
  | error e =>
    rw [Recorded.bind_of_error hr] at hstep ⊢
    exact h c step hstep
  | ok a =>
    rw [Recorded.bind_of_ok hr] at hstep ⊢
    rcases List.mem_append.1 hstep with hstep | hstep
    · exact (h c step hstep).mono fun d hd => hd.imp_right Reached.append_left
    · exact (hnext a _ step hstep).mono fun d hd => hd.imp_right (Reached.append_right _)

theorem compositional : Compositional (Originates s loops known) :=
  ⟨fun _ => nofun, bind, fun _ => nofun, fun _ => take trivial, fun _ => take trivial⟩

theorem recordSpans (spans : List Span) : Originates s loops known (s.recordSpans spans) := by
  induction spans with
  | nil => exact nofun
  | cons span rest ih =>
    refine bind (compositional.ask _) fun value => bind (take trivial) fun _ => ?_
    split
    · exact ih.bind fun texts => compositional.pure _
    · exact ofExcept _

/-- A text binds no name but `value`. -/
theorem recordText (text : String) : Originates s loops known (Template.recordText s text) := by
  have hsubstituted (known : Context → Prop) : Originates s loops known
      (Template.recordSubstituted s (Markers.substitution.split text)) :=
    (recordSpans _).bind fun texts => take trivial
  rw [Template.recordText]
  split
  · intro c
    rw [Recorded.look_bind_apply]
    dsimp only
    split
    · next hscalar =>
      rw [Recorded.take_bind_apply]
      refine List.forall_mem_cons.2 ⟨?_, fun step hstep => ?_⟩
      · exact ⟨rfl, hscalar, c, .inr (reached_start _ c), rfl⟩
      · refine (hsubstituted known _ step hstep).mono fun d hd => hd.imp_right fun hd => ?_
        exact hd.append_right [.bind "value" c.bindings.parameter]
    · exact hsubstituted known c
  · exact take trivial

/-- An iteration for an element of a collection that the engine has given. -/
theorem recordElement {l : Loop} {body : Recorded Unit} (hl : l ∈ loops) {collection : Collection}
    (hcollection : ∃ d, known d ∧
      s.engine.collection l.collection d.bindings.lookup = .ok collection)
    (hbody : Originates s loops known body) (isFirst : Bool) {element : Value × Value}
    (helement : element ∈ collection.elements) :
    Originates s loops known (l.recordElement body isFirst element) := by
  obtain ⟨d, hd, hcollection⟩ := hcollection
  refine bind (take ⟨hl, ?_, d, collection, hd, hcollection, helement⟩) fun _ c step hstep => ?_
  · cases isFirst with
    | true => exact .inl rfl
    | false =>
      cases l.separator with
      | none => exact .inl rfl
      | some separator => exact .inr rfl
  · rcases List.mem_append.1 hstep with hstep | hstep
    · exact (hbody c step hstep).mono fun d hd => hd.imp_right Reached.append_left
    · rw [List.mem_singleton.1 hstep]
      trivial

theorem recordLoop {l : Loop} {body : Recorded Unit} (hl : l ∈ loops)
    (hbody : Originates s loops known body) : Originates s loops known (l.record s body) := by
  intro c
  rw [Loop.record_eq, Recorded.ask_bind_apply]
  cases hcollection : s.engine.collection l.collection c.bindings.lookup with
  | error e => exact nofun
  | ok collection =>
    -- The collection has been given in the context in which the loop begins.
    have hover : Originates s loops (fun d => known d ∨ d = c) (l.recordOver body collection) := by
      refine Loop.recordOver_of compositional (fun _ _ => take trivial) (fun _ _ => take trivial)
        (fun name hname => take ⟨l, hl, hname⟩) fun isFirst element helement => ?_
      exact recordElement hl ⟨c, .inr rfl, hcollection⟩ (hbody.mono fun d => .inl) isFirst helement
    refine fun step hstep => (hover c step hstep).mono fun d hd => ?_
    rcases hd with (hd | rfl) | hd
    · exact .inl hd
    · exact .inr (reached_start _ d)
    · exact .inr hd

end Originates

/-- **Every step arises from the template.** -/
theorem Template.originates (s : Settings) (t : Template) :
    Originates s t.loops (fun _ => False) (t.record s) :=
  record_of Originates.compositional (fun text _ => Originates.recordText text)
    fun _ hl _ hbody => Originates.recordLoop hl hbody

end origins

end SqlTemplate
