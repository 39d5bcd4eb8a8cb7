import SqlTemplate.Proofs.Expansion.Bound
import SqlTemplate.Proofs.Expr.Scalar

/-!
# Well-scoped templates

A template is well scoped if the variables of each loop are names for loop variables, differ from
each other and from those of the loops around it.

**Theorem (`Keeps.record`).** With the engine for property paths, a well-scoped template takes
allowed steps only.

A dynamic text may bind the name `value`, which a loop variable may have too. It does so only where
the parameter is a single value; then every name stands for a single value, no text is a collection,
and no iteration begins.
-/

namespace SqlTemplate

/-! ## Scopes -/

namespace Template

mutual

/-- A template whose loop variables are fit for loops inside those with the variables `outer`. -/
def Scoped (outer : List String) : Template → Prop
  | text _ => True
  | mixed parts => ScopedAll outer parts
  | condition _ contents => ScopedAll outer contents
  | loop l contents =>
    l.names.Nodup ∧ (∀ name ∈ l.names, IsVariable name ∧ name ∉ outer) ∧
      ScopedAll (l.names ++ outer) contents

/-- Templates whose loop variables are fit for loops inside those with the variables `outer`. -/
def ScopedAll (outer : List String) : List Template → Prop
  | [] => True
  | part :: rest => Scoped outer part ∧ ScopedAll outer rest

end

end Template

/-! ## Programs of allowed steps -/

variable {α β : Type}

/-- Inside loops with the variables `outer`, and with a parameter that is `ok`, a program takes
allowed steps only and ends inside the layers in which it began. -/
def Keeps (ok : Value → Prop) (outer : List String) (p : Recorded α) : Prop :=
  ∀ c, Sound c → (∀ v ∈ Layer.names c.layers, v ∈ outer) → ok c.bindings.parameter →
    AllowedRun (p c).steps c ∧
      (replay (p c).steps c).layers.map Layer.outline = c.layers.map Layer.outline

theorem Layer.names_of_outline {layers layers' : List Layer}
    (h : layers'.map outline = layers.map outline) : names layers' = names layers := by
  rw [names, names, ← renamings_map_outline layers', h, renamings_map_outline]

namespace Keeps

variable {ok : Value → Prop} {outer : List String} {p : Recorded α}

theorem pure (a : α) : Keeps ok outer (Pure.pure a : Recorded α) := fun _ _ _ _ => ⟨trivial, rfl⟩

theorem ask (question : Scope → Except Error α) : Keeps ok outer (Recorded.ask question) :=
  fun _ _ _ _ => ⟨trivial, rfl⟩

theorem ofExcept (answer : Except Error α) : Keeps ok outer (Recorded.ofExcept answer) :=
  fun _ _ _ _ => ⟨trivial, rfl⟩

theorem bind {next : α → Recorded β} (h : Keeps ok outer p)
    (hnext : ∀ a, Keeps ok outer (next a)) : Keeps ok outer (p >>= next) := by
  intro c hc houter hok
  obtain ⟨hallowed, hlayers⟩ := h c hc houter hok
  cases hr : (p c).result with
  | error e =>
    rw [Recorded.bind_of_error hr]
    exact ⟨hallowed, hlayers⟩
  | ok a =>
    obtain ⟨hsound, hkept⟩ := hc.replay hallowed
    rw [Recorded.bind_of_ok hr]
    dsimp only
    rw [allowedRun_append, replay_append]
    obtain ⟨hallowed', hlayers'⟩ := hnext a (replay (p c).steps c) hsound
      (by rwa [Layer.names_of_outline hlayers]) (by rwa [hkept.parameter])
    exact ⟨⟨hallowed, hallowed'⟩, hlayers'.trans hlayers⟩

/-- A single step that changes no layer. -/
theorem take {step : Step} (h : ∀ c : Context, (∀ v ∈ Layer.names c.layers, v ∈ outer) →
    ok c.bindings.parameter → step.Allowed c ∧
      (step.apply c).layers.map Layer.outline = c.layers.map Layer.outline) :
    Keeps ok outer (Recorded.take step) :=
  fun c _ houter hok => ⟨⟨(h c houter hok).1, trivial⟩, (h c houter hok).2⟩

theorem write (text : String) : Keeps ok outer (Recorded.take (.write text)) :=
  take fun c _ _ => ⟨trivial, Layer.outline_pass c.layers [text]⟩

theorem recordOptional {step : String → Step} {text : Option String}
    (h : ∀ t ∈ text, Keeps ok outer (Recorded.take (step t))) :
    Keeps ok outer (Loop.recordOptional step text) := by
  cases text with
  | none => exact pure ()
  | some t => exact h t rfl

theorem unbind {name : String} (hname : IsVariable name) (hnot : name ∉ outer) :
    Keeps ok outer (Recorded.take (.unbind name)) :=
  take fun _ houter _ => ⟨⟨fun hmem => hnot (houter name hmem), hname.notIteration⟩, rfl⟩

/-! ## Texts -/

variable (s : Settings)

theorem recordSpans (spans : List Span) : Keeps ok outer (s.recordSpans spans) := by
  induction spans with
  | nil => exact pure []
  | cons span rest ih =>
    refine bind (ask _) fun value => bind (take fun _ _ _ => ⟨trivial, rfl⟩) fun _ => ?_
    split
    · exact ih.bind fun texts => pure _
    · exact ofExcept _

theorem recordText (text : String) : Keeps ok outer (Template.recordText s text) := by
  have hsubstituted : Keeps ok outer
      (Template.recordSubstituted s (Markers.substitution.split text)) :=
    (recordSpans s _).bind fun texts => write _
  rw [Template.recordText]
  split
  · intro c hc houter hok
    rw [Recorded.look_bind_apply]
    dsimp only
    split
    · -- Outside of all iterations any name may be bound.
      next hscalar =>
      have hfree : c.Free "value" := by
        refine ⟨?_, by decide⟩
        rw [Layer.names, hc.outside hscalar]
        exact List.not_mem_nil
      rw [Recorded.take_bind_apply]
      have hsound := hc.bind hfree fun _ => hscalar
      obtain ⟨hallowed, hlayers⟩ :=
        hsubstituted (c.bind "value" c.bindings.parameter) hsound houter hok
      exact ⟨⟨⟨hfree, fun _ => hscalar⟩, hallowed⟩, hlayers⟩
    · exact hsubstituted c hc houter hok
  · exact write text

/-! ## Loops -/

variable {l : Loop} {body : Recorded Unit}

theorem recordElement (hnodup : l.names.Nodup)
    (hnames : ∀ name ∈ l.names, IsVariable name ∧ name ∉ outer)
    (h : Keeps (fun _ => True) (l.names ++ outer) body) (isFirst : Bool)
    (element : Value × Value) :
    Keeps (fun p => p.isScalar = false) outer (l.recordElement body isFirst element) := by
  intro c hc houter hscalar
  rw [Loop.recordElement, Recorded.take_bind_apply]
  generalize (if isFirst then "" else l.separator.getD "") = separator
  have henter : (Step.enter l separator element).Allowed c :=
    ⟨hnodup, fun name hname => ⟨(hnames name hname).1,
      fun hmem => (hnames name hname).2 (houter name hmem)⟩, hscalar⟩
  have hinside : ∀ v ∈ Layer.names (c.enter l separator element).layers, v ∈ l.names ++ outer := by
    intro v hv
    rw [Layer.names, Context.renamings_enter, List.flatMap_cons, List.mem_append] at hv
    rcases hv with hv | hv
    · exact List.mem_append_left _ hv
    · exact List.mem_append_right _ (houter v hv)
  obtain ⟨hallowed, hlayers⟩ := h _ (hc.apply henter) hinside trivial
  refine ⟨⟨henter, allowedRun_append.2 ⟨hallowed, trivial, trivial⟩⟩, ?_⟩
  -- The layers of the iteration are the first two of those in which the body ends.
  dsimp only [Recorded.closing]
  rw [replay_cons, replay_append]
  change (List.drop 2 _).map Layer.outline = _
  rw [List.map_drop]
  rw [hlayers, Step.apply, Context.enter_layers]
  rfl

theorem recordElements (hnodup : l.names.Nodup)
    (hnames : ∀ name ∈ l.names, IsVariable name ∧ name ∉ outer)
    (h : Keeps (fun _ => True) (l.names ++ outer) body) (isFirst : Bool)
    (elements : List (Value × Value)) :
    Keeps (fun p => p.isScalar = false) outer (l.recordElements body isFirst elements) := by
  induction elements generalizing isFirst with
  | nil => exact pure ()
  | cons element rest ih =>
    exact (recordElement hnodup hnames h isFirst element).bind fun written => ih _

/-- A loop begins iterations only where the parameter is no single value. -/
theorem recordLoop (filter : Option (String → Bool)) (hnodup : l.names.Nodup)
    (hnames : ∀ name ∈ l.names, IsVariable name ∧ name ∉ outer)
    (h : Keeps (fun _ => True) (l.names ++ outer) body) :
    Keeps (fun _ => True) outer (l.record ⟨Engine.paths, filter⟩ body) := by
  have hmany :
      Keeps (fun p => p.isScalar = false) outer (l.record ⟨Engine.paths, filter⟩ body) := by
    refine bind (ask _) fun collection => bind (take fun _ _ _ => ⟨trivial, rfl⟩) fun _ => ?_
    split
    · exact pure ()
    · refine bind (recordOptional fun t _ => write t) fun _ => ?_
      refine bind (recordElements hnodup hnames h true collection.elements) fun _ => ?_
      refine bind (recordOptional fun t _ => write t) fun _ => ?_
      have hunbind (name : String) (hname : name ∈ l.names) :
          Keeps (fun p => p.isScalar = false) outer (Recorded.take (.unbind name)) :=
        unbind (hnames name hname).1 (hnames name hname).2
      refine bind (recordOptional fun name hname => hunbind name ?_) fun _ =>
        recordOptional fun name hname => hunbind name ?_
      · exact List.mem_append_left _ (Option.mem_toList.2 hname)
      · exact List.mem_append_right _ (Option.mem_toList.2 hname)
  intro c hc houter _
  cases hscalar : c.bindings.parameter.isScalar with
  | false => exact hmany c hc houter hscalar
  | true =>
    have hscope := hc.isScalar_of_lookup hscalar
    rw [Loop.record, Recorded.ask_bind_apply]
    cases hcollection : Engine.paths.collection l.collection c.bindings.lookup with
    | error e => exact ⟨trivial, rfl⟩
    | ok collection => exact absurd hcollection (Engine.collection_ne_ok hscope _ _)

mutual

/-- **A well-scoped template takes allowed steps.** -/
theorem record (filter : Option (String → Bool)) {outer : List String} {t : Template}
    (h : t.Scoped outer) : Keeps (fun _ => True) outer (t.record ⟨Engine.paths, filter⟩) := by
  cases t with
  | text text =>
    rw [Template.record]
    exact (recordText _ text).bind fun _ => pure true
  | mixed parts =>
    rw [Template.record]
    exact (recordAll filter h).bind fun _ => pure true
  | condition test contents =>
    rw [Template.record]
    refine bind (ask _) fun holds => bind (take fun _ _ _ => ⟨trivial, rfl⟩) fun _ => ?_
    split
    · exact (recordAll filter h).bind fun _ => pure true
    · exact pure false
  | loop l contents =>
    rw [Template.record]
    exact (recordLoop filter h.1 h.2.1 (recordAll filter h.2.2)).bind fun _ => pure true

theorem recordAll (filter : Option (String → Bool)) {outer : List String} {ts : List Template}
    (h : Template.ScopedAll outer ts) :
    Keeps (fun _ => True) outer (Template.recordAll ⟨Engine.paths, filter⟩ ts) := by
  cases ts with
  | nil => exact pure ()
  | cons part rest =>
    rw [Template.recordAll]
    exact (record filter h.1).bind fun _ => recordAll filter h.2

end

end Keeps

end SqlTemplate
