import SqlTemplate.Proofs.Expansion.Shadow

/-!
# What an expansion leaves bound

A loop binds its variables for each element, and the names of its iterations for good; a text may
bind `value`. The variables are removed once, at the end of the loop, whatever the loops inside it
have bound and removed before.

**Theorem (`bound_after_expansion`).** After an expansion that has succeeded, a name in the table is
that of the database, or `value` where the parameter is a single value, or that of a variable of the
template in an iteration that has been. So the variables themselves are gone, but for those that are
called like one of these.

The invariant says which names a piece of an expansion may bring into the table (`Adds`). For a
piece inside a loop, the variables of the loop are among them. The loop as a whole brings them in no
more, since it ends by removing them.
-/

namespace SqlTemplate

open Renaming (iterationName)

/-- The names in the table. -/
def Context.names (c : Context) : List String := Keyed.keys c.bindings.table

/-- A name that an expansion of these loops may leave in the table, where `next` is the number of
the next iteration. -/
inductive StaysBound (loops : List Loop) (parameter : Value) (next : Nat) : String → Prop
  | value (h : parameter.isScalar) : StaysBound loops parameter next "value"
  | iteration {l : Loop} {v : String} {n : Nat} (hl : l ∈ loops) (hv : v ∈ l.names)
      (hn : n < next) : StaysBound loops parameter next (iterationName v n)

/-! ## Between two contexts -/

/-- A name that has come into the table stays bound, or is one of the variables `opened`. -/
def AddedBetween (loops : List Loop) (opened : List String) (c d : Context) : Prop :=
  ∀ name ∈ d.names,
    name ∈ c.names ∨ StaysBound loops c.bindings.parameter d.next name ∨ name ∈ opened

variable {loops : List Loop} {opened : List String}

theorem StaysBound.mono {parameter : Value} {next next' : Nat} {name : String}
    (h : StaysBound loops parameter next name) (hnext : next ≤ next') :
    StaysBound loops parameter next' name := by
  cases h with
  | value h => exact .value h
  | iteration hl hv hn => exact .iteration hl hv (Nat.lt_of_lt_of_le hn hnext)

theorem AddedBetween.of_subset {c d : Context} (h : ∀ name ∈ d.names, name ∈ c.names) :
    AddedBetween loops opened c d := fun name hname => .inl (h name hname)

theorem AddedBetween.trans {c d e : Context} (h : AddedBetween loops opened c d)
    (h' : AddedBetween loops opened d e) (hparameter : d.bindings.parameter = c.bindings.parameter)
    (hnext : d.next ≤ e.next) : AddedBetween loops opened c e := by
  intro name hname
  rcases h' name hname with hname | hstays | hopened
  · rcases h name hname with hname | hstays | hopened
    · exact .inl hname
    · exact .inr (.inl (hstays.mono hnext))
    · exact .inr (.inr hopened)
  · exact .inr (.inl (hparameter ▸ hstays))
  · exact .inr (.inr hopened)

theorem next_replay (steps : List Step) (c : Context) : c.next ≤ (replay steps c).next := by
  induction steps generalizing c with
  | nil => exact Nat.le_refl _
  | cons step rest ih => exact Nat.le_trans (step.next_apply c) (ih _)

theorem Context.names_bindVariable {c : Context} {w : Option String} {value : Value}
    {n : Nat} {name : String} (h : name ∈ (c.bindVariable w value n).names) :
    name ∈ c.names ∨ ∃ v ∈ w, name = v ∨ name = iterationName v n := by
  cases w with
  | none => exact .inl h
  | some v =>
    rcases Keyed.mem_keys_of_insert h with hname | h
    · exact .inr ⟨v, rfl, .inl hname⟩
    · rcases Keyed.mem_keys_of_insert h with hname | h
      · exact .inr ⟨v, rfl, .inr hname⟩
      · exact .inl h

/-- An iteration that begins adds its variables and their names in it. -/
theorem addedBetween_enter {l : Loop} (hl : l ∈ loops) (hopened : ∀ v ∈ l.names, v ∈ opened)
    (c : Context) (separator : String) (element : Value × Value) :
    AddedBetween loops opened c (c.enter l separator element) := by
  have hadded : ∀ v ∈ l.names, ∀ name, name = v ∨ name = iterationName v c.next →
      StaysBound loops c.bindings.parameter (c.enter l separator element).next name ∨
        name ∈ opened := by
    rintro v hv name (rfl | rfl)
    · exact .inr (hopened name hv)
    · refine .inl (.iteration hl hv ?_)
      rw [Context.enter_next]
      exact Nat.lt_succ_self _
  intro name hname
  rcases Context.names_bindVariable hname with hname | ⟨v, hv, hname⟩
  · rcases Context.names_bindVariable hname with hname | ⟨v, hv, hname⟩
    · exact .inl hname
    · exact .inr (hadded v (List.mem_append_right _ (Option.mem_toList.2 hv)) name hname)
  · exact .inr (hadded v (List.mem_append_left _ (Option.mem_toList.2 hv)) name hname)

/-! ## Programs -/

/-- A program that brings no other names into a table in order, if it succeeds. -/
def Adds (loops : List Loop) (opened : List String) {α : Type} (p : Recorded α) : Prop :=
  ∀ c a, c.InOrder → (p c).result = .ok a → AddedBetween loops opened c (replay (p c).steps c)

namespace Adds

variable {α β : Type} {p : Recorded α}

theorem bind {next : α → Recorded β} (h : Adds loops opened p)
    (hnext : ∀ a, Adds loops opened (next a)) : Adds loops opened (p >>= next) := by
  intro c b hc hb
  obtain ⟨a, ha, hb⟩ := Recorded.bind_eq_ok hb
  rw [Recorded.bind_of_ok ha, replay_append]
  exact (h c a hc ha).trans (hnext a _ b (ascending_replay _ hc) hb)
    (parameter_replay (p c).steps c) (next_replay _ _)

/-- A step that brings no name into the table. -/
theorem take {step : Step} (h : ∀ c, ∀ name ∈ (step.apply c).names, name ∈ c.names) :
    Adds loops opened (Recorded.take step) := fun c _ _ _ => .of_subset (h c)

theorem compositional : Compositional (Adds loops opened) where
  pure _ _ _ _ _ := .of_subset fun _ => id
  bind := bind
  ask _ _ _ _ _ := .of_subset fun _ => id
  test _ := take fun _ _ => id
  count _ := take fun _ _ => id

theorem mono {opened' : List String} (h : Adds loops opened p)
    (hopened : ∀ name ∈ opened, name ∈ opened') : Adds loops opened' p :=
  fun c a hc ha name hname => (h c a hc ha name hname).imp_right (Or.imp_right (hopened name))

theorem recordSpans (s : Settings) (spans : List Span) :
    Adds loops opened (s.recordSpans spans) := by
  induction spans with
  | nil => exact compositional.pure []
  | cons span rest ih =>
    refine bind (compositional.ask _) fun value => bind (take fun _ _ => id) fun _ => ?_
    split
    · exact ih.bind fun texts => compositional.pure _
    · exact fun c a _ h => by cases h

/-- A text adds at most `value`. -/
theorem recordText (s : Settings) (text : String) :
    Adds loops opened (Template.recordText s text) := by
  have hsubstituted : Adds loops opened
      (Template.recordSubstituted s (Markers.substitution.split text)) :=
    (recordSpans s _).bind fun texts => take fun _ _ => id
  rw [Template.recordText]
  split
  · intro c a hc ha
    rw [Recorded.look_bind_apply] at ha ⊢
    dsimp only at ha ⊢
    split at ha
    · next hscalar =>
      rw [if_pos hscalar]
      have hbind : AddedBetween loops opened c (c.bind "value" c.bindings.parameter) := by
        intro name hname
        rcases Keyed.mem_keys_of_insert hname with rfl | hname
        · exact .inr (.inl (.value hscalar))
        · exact .inl hname
      exact hbind.trans (hsubstituted _ a (hc.insert _ _) ha) rfl (next_replay _ _)
    · next hscalar =>
      rw [if_neg hscalar]
      exact hsubstituted c a hc ha
  · exact take fun _ _ => id

variable {l : Loop} {body : Recorded Unit}

theorem closing (h : Adds loops opened body) : Adds loops opened body.closing := by
  intro c a hc ha
  cases hr : (body c).result with
  | error e => rw [Recorded.closing, hr] at ha; cases ha
  | ok done =>
    rw [Recorded.closing, replay_append]
    exact h c done hc hr

theorem recordElement (hl : l ∈ loops) (hopened : ∀ v ∈ l.names, v ∈ opened)
    (hbody : Adds loops opened body) (isFirst : Bool) (element : Value × Value) :
    Adds loops opened (l.recordElement body isFirst element) :=
  bind (fun c _ _ _ => addedBetween_enter hl hopened c _ element) fun _ => hbody.closing

/-- **A loop adds what its body adds.** Its own variables are removed at its end. -/
theorem recordLoop (s : Settings) (hl : l ∈ loops) (hbody : Adds loops [] body) :
    Adds loops [] (l.record s body) := by
  intro c a hc ha
  rw [Loop.record_eq, Recorded.ask_bind_apply] at ha ⊢
  cases hcollection : s.engine.collection l.collection c.bindings.lookup with
  | error e => rw [hcollection] at ha; cases ha
  | ok collection =>
    rw [hcollection] at ha
    dsimp only at ha ⊢
    by_cases hempty : collection.size = 0
    · rw [Loop.replay_recordOver_of_empty hempty]
      exact .of_subset fun _ => id
    · have hover : Adds loops l.names (l.recordOver body collection) := by
        refine Loop.recordOver_of compositional (fun _ _ => take fun _ _ => id)
          (fun _ _ => take fun _ _ => id) (fun _ _ => take fun _ _ => Keyed.mem_keys_of_erase) ?_
        exact fun isFirst element _ => recordElement hl (fun _ => id) (hbody.mono nofun) isFirst
          element
      have hremoved := (Loop.unbound_after_recordOver hempty c a hc ha).2
      intro name hname
      rcases hover c a hc ha name hname with hbefore | hstays | hmem
      · exact .inl hbefore
      · exact .inr (.inl hstays)
      · exact absurd hname (Keyed.get?_eq_none_iff.1 (hremoved name hmem))

theorem record (s : Settings) (t : Template) : Adds t.loops [] (t.record s) :=
  Template.record_of compositional (fun text _ => recordText s text)
    fun _ hl _ hbody => recordLoop s hl hbody

end Adds

/-! ## Expansions -/

/-- **What an expansion leaves bound.** After an expansion that has succeeded, a name in the table
is that of the database, if there is one, or stays bound by the loops of the template. A variable of
a loop is gone unless it is such a name. -/
theorem bound_after_expansion {s : Settings} {t : Template} {parameter : Value}
    {database : Option String} {took : Bool} {final : Context}
    (h : (t.expand s).applyTo (Context.ofParameter parameter database) = (.ok took, final)) :
    (∀ name ∈ final.names, (name = Bindings.databaseName ∧ database.isSome) ∨
        StaysBound t.loops parameter final.next name) ∧
      ∀ l ∈ t.loops, ∀ v ∈ l.names,
        ¬ (v = Bindings.databaseName ∧ database.isSome) →
        ¬ StaysBound t.loops parameter final.next v →
        Keyed.get? v final.bindings.table = none := by
  have hnames : ∀ name ∈ final.names, (name = Bindings.databaseName ∧ database.isSome) ∨
      StaysBound t.loops parameter final.next name := by
    rw [Template.applyTo_expand] at h
    obtain ⟨hresult, rfl⟩ := Prod.mk.inj h
    intro name hname
    rcases Adds.record s t _ took (Context.ascending_ofParameter parameter database) hresult name
      hname with hstart | hstays | hopened
    · cases database with
      | none => cases hstart
      | some id => exact .inl ⟨List.mem_singleton.1 hstart, rfl⟩
    · cases database with
      | none => exact .inr hstays
      | some id => exact .inr hstays
    · cases hopened
  refine ⟨hnames, fun l _ v _ hdatabase hstays => Keyed.get?_eq_none_iff.2 fun hmem => ?_⟩
  exact (hnames v hmem).elim hdatabase hstays

/-- The iterations of two loops with one variable stay bound, and so does the database; the variable
does not. -/
theorem bound_after_nested_loops :
    let template : Template := .loop ⟨"xs", some "x", none, none, none, none⟩
      [.loop ⟨"ys", some "x", none, none, none, none⟩ [.text "$\x7bx\x7d"]]
    let parameter : Value := .map [("xs", .list [.int 1, .int 2]), ("ys", .list [.int 3])]
    let run := (template.expand ⟨Engine.paths, none⟩).applyTo
      (Context.ofParameter parameter (some "h2"))
    run.1.toOption = some true ∧ run.2.names =
        ["__frch_x_0", "__frch_x_1", "__frch_x_2", "__frch_x_3", "_databaseId"] ∧
      StaysBound template.loops parameter run.2.next "__frch_x_3" ∧
      Keyed.get? "x" run.2.bindings.table = none := by
  intro template parameter run
  have hrun : run = (.ok true, run.2) := Prod.ext (by decide +kernel) rfl
  have hnames : run.2.names =
      ["__frch_x_0", "__frch_x_1", "__frch_x_2", "__frch_x_3", "_databaseId"] := by decide +kernel
  obtain ⟨hbound, hgone⟩ := bound_after_expansion hrun
  refine ⟨congrArg (fun r => r.1.toOption) hrun, hnames, ?_, ?_⟩
  · refine (hbound "__frch_x_3" ?_).resolve_left fun h => absurd h.1 (by decide)
    rw [hnames]
    decide
  · refine hgone _ List.mem_cons_self "x" (by decide) (fun h => absurd h.1 (by decide)) ?_
    generalize hname : "x" = name
    rintro (_ | ⟨_, _, _⟩)
    · exact absurd hname (by decide)
    · exact Renaming.ne_iterationName (by decide) _ _ hname

end SqlTemplate
