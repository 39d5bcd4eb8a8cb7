import SqlTemplate.Proofs.Context.Emission

/-!
# Handing fragments over

A context takes the fragments that are written to it one after another. What its layers make of the
first ones decides what they make of the next, so handing fragments over in two goes is the same as
handing them over at once.

A context can stand inside the layers of another: it has layers of its own, and what comes out of
them is handed to the other one.

**Theorem (`append_within`).** A fragment that is written inside the layers of a context is handed
to that context as the fragments that its own layers make of it.
-/

namespace SqlTemplate

namespace Layer

theorem throughAll_append (layer : Layer) (before after : List String) :
    layer.throughAll (before ++ after) =
      (((layer.throughAll before).1.throughAll after).1,
        (layer.throughAll before).2 ++ ((layer.throughAll before).1.throughAll after).2) := by
  induction before generalizing layer with
  | nil => rfl
  | cons sql rest ih => simp only [List.cons_append, throughAll, ih, List.append_assoc]

theorem pass_nil (layers : List Layer) : pass layers [] = (layers, []) := by
  induction layers with
  | nil => rfl
  | cons layer outer ih => simp only [pass, throughAll, ih]

/-- Fragments that come later meet the layers as the earlier ones have left them. -/
theorem pass_append (layers : List Layer) (before after : List String) :
    pass layers (before ++ after) =
      ((pass (pass layers before).1 after).1,
        (pass layers before).2 ++ (pass (pass layers before).1 after).2) := by
  induction layers generalizing before after with
  | nil => rfl
  | cons layer outer ih => simp only [pass, throughAll_append, ih]

/-- What comes out of inner layers goes on through the outer ones. -/
theorem pass_layers_append (inner outer : List Layer) (fragments : List String) :
    pass (inner ++ outer) fragments =
      ((pass inner fragments).1 ++ (pass outer (pass inner fragments).2).1,
        (pass outer (pass inner fragments).2).2) := by
  induction inner generalizing fragments with
  | nil => rfl
  | cons layer inner ih => simp only [List.cons_append, pass, ih]

theorem length_pass (layers : List Layer) (fragments : List String) :
    (pass layers fragments).1.length = layers.length := by
  simpa using congrArg List.length (outline_pass layers fragments)

end Layer

namespace Context

/-- Writes fragments one after another. -/
def hand (c : Context) (fragments : List String) : Context := fragments.foldl append c

@[simp] theorem hand_nil (c : Context) : c.hand [] = c := rfl

theorem hand_append (c : Context) (before after : List String) :
    c.hand (before ++ after) = (c.hand before).hand after := List.foldl_append

/-- Handing fragments over sends them through the layers together. -/
theorem hand_eq (c : Context) (fragments : List String) :
    c.hand fragments =
      { c with
        sql := c.sql ++ String.join (Layer.pass c.layers fragments).2
        layers := (Layer.pass c.layers fragments).1 } := by
  induction fragments generalizing c with
  | nil => simp [Layer.pass_nil]
  | cons sql rest ih =>
    have hpass := Layer.pass_append c.layers [sql] rest
    rw [List.singleton_append] at hpass
    rw [hand, List.foldl_cons, ← hand, ih, hpass]
    simp only [append, String.join_append, String.append_assoc]

theorem hand_layers (c : Context) (fragments : List String) :
    (c.hand fragments).layers = (Layer.pass c.layers fragments).1 := by rw [hand_eq]

/-- A context with its layers inside those of another one, to whose SQL it writes. -/
def within (c outer : Context) : Context :=
  { c with sql := outer.sql, layers := c.layers ++ outer.layers }

/-- **Writing inside layers** hands over what the inner layers make of the fragment. -/
theorem append_within (c outer : Context) (sql : String) :
    (c.within outer).append sql =
      (c.append sql).within (outer.hand (Layer.pass c.layers [sql]).2) := by
  simp only [append, within, Layer.pass_layers_append, hand_eq]

end Context

end SqlTemplate
