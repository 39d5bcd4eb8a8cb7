import SqlTemplate.Proofs.Context.Handing
import SqlTemplate.Proofs.Expansion.Origin

/-!
# An expansion inside other layers

The layers around an expansion do not take part in it. It asks the same questions and takes the same
steps as it does alone, and all that it writes is handed to the layers around it, fragment by
fragment.

**Theorem (`Template.applyTo_expand_alone`).** Let an expansion that begins alone, without SQL and
without layers, end with some result in some context. In the same bindings inside any layers and
behind any SQL, it has the same result, ends with the same bindings and the same next number, and
the fragments that it has written alone are handed to what is around it.

`Local` is this property of a program, in two parts: the context around may be changed
(`Local.replay`), and what comes out of it is made of what comes out without it
(`Local.fragments`). The only step that could go beyond the layers of its own is the end of an
iteration, and a program ends no iteration but those that it has begun (`Local.recordElement`).
-/

namespace SqlTemplate

/-! ## What a run hands over -/

/-- The fragments that come out of the layers in a step. -/
def Step.fragments (c : Context) (step : Step) : List String :=
  (step.emissions c).map fun written => written.1.sql

/-- The fragments that come out of the layers in a run. -/
def fragmentsOf (steps : List Step) (c : Context) : List String :=
  (emissionsOf steps c).map fun written => written.1.sql

theorem Step.fragments_write (c : Context) (text : String) :
    (Step.write text).fragments c = (Layer.pass c.layers [text]).2 := by
  have hpass := Layer.pass_eq_trace c.layers [⟨text, []⟩]
  change Layer.pass c.layers [text] = _ at hpass
  rw [fragments, emissions, List.map_map, hpass]
  rfl

@[simp] theorem fragmentsOf_nil (c : Context) : fragmentsOf [] c = [] := rfl

theorem fragmentsOf_cons (step : Step) (rest : List Step) (c : Context) :
    fragmentsOf (step :: rest) c = step.fragments c ++ fragmentsOf rest (step.apply c) :=
  List.map_append

theorem fragmentsOf_append (before after : List Step) (c : Context) :
    fragmentsOf (before ++ after) c =
      fragmentsOf before c ++ fragmentsOf after (replay before c) := by
  induction before generalizing c with
  | nil => rfl
  | cons step rest ih =>
    rw [List.cons_append, fragmentsOf_cons, ih, fragmentsOf_cons, List.append_assoc, replay_cons]

/-- A run of two parts hands over what both of them do. -/
theorem fragmentsOf_bind {α β : Type} {p : Recorded α} {next : α → Recorded β} {c : Context} {a : α}
    (h : (p c).result = .ok a) : fragmentsOf ((p >>= next) c).steps c =
      fragmentsOf (p c).steps c ++
        fragmentsOf (next a (replay (p c).steps c)).steps (replay (p c).steps c) := by
  rw [Recorded.bind_of_ok h]
  exact fragmentsOf_append _ _ _

/-! ## Steps inside other layers -/

namespace Context

theorem bindVariable_within (c outer : Context) (name : Option String) (value : Value)
    (number : Nat) : (c.within outer).bindVariable name value number =
      (c.bindVariable name value number).within outer := by
  cases name <;> rfl

theorem enter_within (c outer : Context) (l : Loop) (separator : String)
    (element : Value × Value) : (c.within outer).enter l separator element =
      (c.enter l separator element).within outer := by
  have hnext : ({ c.within outer with next := c.next + 1 } : Context) =
      ({ c with next := c.next + 1 } : Context).within outer := rfl
  change Context.mk _ _ _ _ = _
  rw [show (c.within outer).next = c.next from rfl, hnext, bindVariable_within, bindVariable_within]
  rfl

/-- The end of an iteration stays inside if the layers of the iteration are inside. -/
theorem leave_within {c : Context} (h : 2 ≤ c.layers.length) (outer : Context) :
    (c.within outer).leave = c.leave.within outer := by
  simp only [leave, within, List.drop_append_of_le_length h]

end Context

/-- A step inside other layers hands its fragments to them, and does the same. -/
theorem Step.apply_within {step : Step} {c : Context} (h : step = .leave → 2 ≤ c.layers.length)
    (outer : Context) :
    step.apply (c.within outer) = (step.apply c).within (outer.hand (step.fragments c)) := by
  cases step with
  | write text => rw [fragments_write]; exact c.append_within outer text
  | enter l separator element => exact c.enter_within outer l separator element
  | leave => exact Context.leave_within (h rfl) outer
  | test | count | substitute | bind | unbind => rfl

theorem Step.fragments_within (step : Step) (c outer : Context) :
    step.fragments (c.within outer) = (Layer.pass outer.layers (step.fragments c)).2 := by
  cases step with
  | write text => rw [fragments_write, fragments_write, Context.within, Layer.pass_layers_append]
  | test | count | substitute | bind | unbind | enter | leave =>
    exact congrArg Prod.snd (Layer.pass_nil outer.layers).symm

/-! ## Iterations -/

/-- The steps of an iteration with these steps between its beginning and its end. -/
def Loop.iterationSteps (l : Loop) (separator : String) (element : Value × Value)
    (inner : List Step) : List Step :=
  .enter l separator element :: (inner ++ [.leave])

namespace Loop

variable (l : Loop) (separator : String) (element : Value × Value) (inner : List Step)

theorem replay_iterationSteps (c : Context) : replay (l.iterationSteps separator element inner) c =
    (replay inner (c.enter l separator element)).leave := by
  rw [iterationSteps, replay_cons, replay_append]
  rfl

theorem fragmentsOf_iterationSteps (c : Context) :
    fragmentsOf (l.iterationSteps separator element inner) c =
      fragmentsOf inner (c.enter l separator element) := by
  rw [iterationSteps, fragmentsOf_cons, fragmentsOf_append]
  exact List.append_nil _

/-- The separator of an iteration, which the first one does not have. -/
def separatorAt (l : Loop) (isFirst : Bool) : String := if isFirst then "" else l.separator.getD ""

variable {l element} in
theorem recordElement_eq {body : Recorded Unit} {isFirst : Bool} {c : Context} (entered : Context)
    (h : entered = c.enter l (l.separatorAt isFirst) element) :
    l.recordElement body isFirst element c =
      ⟨l.iterationSteps (l.separatorAt isFirst) element (body entered).steps,
        (body entered).result.map fun _ =>
          ((replay (body entered).steps entered).layers.take 2).any Layer.isApplied⟩ := by
  rw [h]
  rfl

end Loop

/-! ## Programs inside other layers -/

/-- A program that does the same whatever is around its context, and leaves its layers in place. -/
structure Local {α : Type} (p : Recorded α) : Prop where
  same (c outer : Context) : p (c.within outer) = p c
  replay (c outer : Context) : replay (p c).steps (c.within outer) =
    (replay (p c).steps c).within (outer.hand (fragmentsOf (p c).steps c))
  fragments (c outer : Context) : fragmentsOf (p c).steps (c.within outer) =
    (Layer.pass outer.layers (fragmentsOf (p c).steps c)).2
  length (c : Context) : (SqlTemplate.replay (p c).steps c).layers.length = c.layers.length

namespace Local

variable {α β : Type} {p : Recorded α}

/-- A program that takes no step. -/
theorem of_steps_nil (hsame : ∀ c outer : Context, p (c.within outer) = p c)
    (hsteps : ∀ c, (p c).steps = []) : Local p where
  same := hsame
  replay c outer := by rw [hsteps]; rfl
  fragments c outer := by rw [hsteps]; exact congrArg Prod.snd (Layer.pass_nil _).symm
  length c := by rw [hsteps]; rfl

theorem take {step : Step} (hleave : step ≠ .leave)
    (hlength : ∀ c, (step.apply c).layers.length = c.layers.length) :
    Local (Recorded.take step) where
  same _ _ := rfl
  replay c outer := by
    change step.apply (c.within outer) = (step.apply c).within (outer.hand (fragmentsOf [step] c))
    rw [Step.apply_within (fun h => absurd h hleave), fragmentsOf_cons, fragmentsOf_nil,
      List.append_nil]
  fragments c outer := by
    change fragmentsOf [step] (c.within outer) = (Layer.pass outer.layers (fragmentsOf [step] c)).2
    rw [fragmentsOf_cons, fragmentsOf_cons, fragmentsOf_nil, fragmentsOf_nil, List.append_nil,
      List.append_nil, Step.fragments_within]
  length c := hlength c

theorem write (text : String) : Local (Recorded.take (.write text)) :=
  take nofun fun c => Layer.length_pass c.layers [text]

theorem bind {next : α → Recorded β} (h : Local p) (hnext : ∀ a, Local (next a)) :
    Local (p >>= next) where
  same c outer := by
    cases hr : (p c).result with
    | error e =>
      rw [Recorded.bind_of_error hr, Recorded.bind_of_error (h.same c outer ▸ hr), h.same]
    | ok a =>
      rw [Recorded.bind_of_ok hr, Recorded.bind_of_ok (h.same c outer ▸ hr), h.same, h.replay,
        (hnext a).same]
  replay c outer := by
    cases hr : (p c).result with
    | error e => rw [Recorded.bind_of_error hr]; exact h.replay c outer
    | ok a =>
      rw [Recorded.bind_of_ok hr]
      dsimp only
      rw [replay_append, h.replay, (hnext a).replay, fragmentsOf_append, Context.hand_append,
        replay_append]
  fragments c outer := by
    cases hr : (p c).result with
    | error e => rw [Recorded.bind_of_error hr]; exact h.fragments c outer
    | ok a =>
      rw [Recorded.bind_of_ok hr]
      dsimp only
      rw [fragmentsOf_append, h.fragments, h.replay, (hnext a).fragments, fragmentsOf_append,
        Layer.pass_append, Context.hand_layers]
  length c := by
    cases hr : (p c).result with
    | error e => rw [Recorded.bind_of_error hr]; exact h.length c
    | ok a =>
      rw [Recorded.bind_of_ok hr]
      dsimp only
      rw [replay_append, (hnext a).length, h.length]

theorem compositional : Compositional Local where
  pure _ := of_steps_nil (fun _ _ => rfl) fun _ => rfl
  bind := bind
  ask _ := of_steps_nil (fun _ _ => rfl) fun _ => rfl
  test _ := take nofun fun _ => rfl
  count _ := take nofun fun _ => rfl

/-- A program that looks at nothing of the context but what does not depend on its place. -/
theorem look_bind {next : Context → Recorded β}
    (hsame : ∀ c outer : Context, next (c.within outer) = next c) (h : ∀ c, Local (next c)) :
    Local (Recorded.look >>= next) where
  same c outer := by
    rw [Recorded.look_bind_apply, Recorded.look_bind_apply, hsame, (h c).same]
  replay c outer := (h c).replay c outer
  fragments c outer := (h c).fragments c outer
  length c := (h c).length c

/-! ## Templates inside other layers -/

variable (s : Settings)

theorem recordSpans (spans : List Span) : Local (s.recordSpans spans) := by
  induction spans with
  | nil => exact compositional.pure []
  | cons span rest ih =>
    refine bind (compositional.ask _) fun value => bind (take nofun fun _ => rfl) fun _ => ?_
    split
    · exact ih.bind fun texts => compositional.pure _
    · exact of_steps_nil (fun _ _ => rfl) fun _ => rfl

theorem recordText (text : String) : Local (Template.recordText s text) := by
  have hsubstituted : Local (Template.recordSubstituted s (Markers.substitution.split text)) :=
    (recordSpans s _).bind fun texts => write _
  rw [Template.recordText]
  split
  · refine look_bind (fun _ _ => rfl) fun c => ?_
    dsimp only
    split
    · exact bind (take (by rintro ⟨⟩) fun _ => rfl) fun _ => hsubstituted
    · exact hsubstituted
  · exact write text

variable {s} {l : Loop} {body : Recorded Unit}

/-- **An iteration stays inside.** It ends with the two layers on top with which it began. -/
theorem recordElement (h : Local body) (isFirst : Bool) (element : Value × Value) :
    Local (l.recordElement body isFirst element) := by
  let entered (c : Context) := c.enter l (l.separatorAt isFirst) element
  let ended (c : Context) := SqlTemplate.replay (body (entered c)).steps (entered c)
  have henter (c outer : Context) : entered (c.within outer) = (entered c).within outer :=
    c.enter_within outer l (l.separatorAt isFirst) element
  have hended (c outer : Context) : SqlTemplate.replay (body (entered c)).steps
      (entered (c.within outer)) =
        (ended c).within (outer.hand (fragmentsOf (body (entered c)).steps (entered c))) := by
    rw [henter, h.replay]
  have hlength (c : Context) : (ended c).layers.length = c.layers.length + 2 := by
    rw [h.length, Context.enter_layers]
    rfl
  have htwo (c : Context) : 2 ≤ (ended c).layers.length := by
    rw [hlength]
    exact Nat.le_add_left 2 _
  refine ⟨fun c outer => ?_, fun c outer => ?_, fun c outer => ?_, fun c => ?_⟩
  · have hbody : body (entered (c.within outer)) = body (entered c) := by rw [henter, h.same]
    have htake : (SqlTemplate.replay (body (entered c)).steps
        (entered (c.within outer))).layers.take 2 = (ended c).layers.take 2 := by
      rw [hended]
      exact List.take_append_of_le_length (htwo c)
    rw [Loop.recordElement_eq (entered (c.within outer)) rfl, hbody, htake]
    rfl
  · rw [Loop.recordElement_eq (entered c) rfl, Loop.replay_iterationSteps,
      Loop.replay_iterationSteps, Loop.fragmentsOf_iterationSteps]
    exact (congrArg Context.leave (hended c outer)).trans (Context.leave_within (htwo c) _)
  · rw [Loop.recordElement_eq (entered c) rfl, Loop.fragmentsOf_iterationSteps,
      Loop.fragmentsOf_iterationSteps]
    exact (congrArg (fragmentsOf _) (henter c outer)).trans (h.fragments _ outer)
  · rw [Loop.recordElement_eq (entered c) rfl, Loop.replay_iterationSteps, Context.leave,
      List.length_drop]
    exact congrArg (· - 2) (hlength c)

theorem recordLoop (h : Local body) : Local (l.record s body) := by
  rw [Loop.record_eq]
  refine bind (compositional.ask _) fun collection => ?_
  exact Loop.recordOver_of compositional (fun _ _ => write _) (fun _ _ => write _)
    (fun _ _ => take nofun fun _ => rfl) fun isFirst element _ => recordElement h isFirst element

end Local

theorem Template.local_record (s : Settings) (t : Template) : Local (t.record s) :=
  record_of Local.compositional (fun text _ => Local.recordText s text)
    fun _ _ _ hbody => Local.recordLoop hbody

theorem Template.local_recordAll (s : Settings) (ts : List Template) : Local (recordAll s ts) :=
  recordAll_of Local.compositional (fun text _ => Local.recordText s text)
    fun _ _ _ hbody => Local.recordLoop hbody

/-! ## Expansions inside other layers -/

/-- A context on its own: the same bindings and the same next number, without SQL and layers. -/
def Context.alone (c : Context) : Context := { c with sql := "", layers := [] }

/-- The fragments that an expansion hands to the context in which it begins. -/
def Template.handed (s : Settings) (t : Template) (c : Context) : List String :=
  fragmentsOf (t.record s c.alone).steps c.alone

/-- **Layers around an expansion take no part in it.** It does what it does alone, and hands its
fragments to what is around it. -/
theorem Template.applyTo_expand_alone (s : Settings) (t : Template) (c : Context) :
    let (result, final) := (t.expand s).applyTo c.alone
    (t.expand s).applyTo c = (result, final.within (c.hand (t.handed s c))) ∧
      final.sql = String.join (t.handed s c) ∧ final.layers = [] := by
  have hlocal := t.local_record s
  have hwithin : c.alone.within c = c := rfl
  have hsame := hlocal.same c.alone c
  have hreplay := hlocal.replay c.alone c
  rw [hwithin] at hsame hreplay
  rw [applyTo_expand, applyTo_expand, hsame, hreplay]
  refine ⟨rfl, ?_, List.length_eq_zero_iff.1 (hlocal.length c.alone)⟩
  exact (sql_replay _ _).trans String.empty_append

end SqlTemplate
