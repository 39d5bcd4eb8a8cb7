import SqlTemplate.Proofs.Schema.Conformance
import SqlTemplate.Proofs.Schema.Segment

/-!
# Paths put together

A path may be cut at any of its dots: its segments are those of the part before the dot and then
those of the part after it, whatever the parts look like. So a schema follows a path by following
its parts one after the other, and all that the first part hands over is the type it leads to.

**Theorem (`typeOf?_dot`).** From an object the second part goes on as a path of its own. From a map
its first segment leads to the values, and the others go on from there. Every second part leads from
`any` to `any`, and none leads on from a list or a scalar, nor from a first part that leads nowhere.

Following is a fold of one step for each segment (`Registry.step?`), so nothing else is to be known
about the registry; its types may refer to each other in circles.
-/

namespace SqlTemplate

namespace Registry

variable (r : Registry)

/-- The type that one segment leads to. -/
def step? : PropertyType → Segment → Option PropertyType
  | .object name, s => ((r.descriptor? name).bind (·.typeOf? s.name)).map s.typeOf
  | .map value, s => some (s.typeOf value)
  | .any, _ => some .any
  | _, _ => none

theorem step?_eq {type : PropertyType} (h : type ≠ .any) (s : Segment) :
    r.step? type s = (r.propertyOf? type s.name).map s.typeOf := by
  cases type with
  | any => exact absurd rfl h
  | _ => rfl

/-- **Following takes one step for each segment.** -/
theorem follow?_eq_foldlM (type : PropertyType) (segments : List Segment) :
    r.follow? type segments = segments.foldlM r.step? type := by
  induction segments generalizing type with
  | nil => rfl
  | cons s rest ih =>
    rw [List.foldlM_cons]
    by_cases htype : type = .any
    · subst htype
      rw [follow?_any]
      exact (follow?_any r rest).symm.trans (ih .any)
    · rw [follow?, if_neg htype, step?_eq r htype]
      cases r.propertyOf? type s.name with
      | none => rfl
      | some next => exact ih (s.typeOf next)

/-- Segments that are put together are followed one part after the other. -/
theorem follow?_append (type : PropertyType) (before after : List Segment) :
    r.follow? type (before ++ after) = (r.follow? type before).bind (r.follow? · after) := by
  simp only [follow?_eq_foldlM, List.foldlM_append]
  rfl

/-- **The type of a path with a dot in it** comes from the type that the part before the dot leads
to. -/
theorem typeOf?_dot (typeName p q : String) :
    ∃ first rest, Segment.ofPath q = first :: rest ∧
      r.typeOf? typeName (p ++ "." ++ q) =
        match r.typeOf? typeName p with
        | some (.object name) => r.typeOf? name q
        | some (.map value) => rest.foldlM r.step? (first.typeOf value)
        | some .any => some .any
        | _ => none := by
  obtain ⟨first, rest, hq⟩ := Segment.exists_ofPath q
  refine ⟨first, rest, hq, ?_⟩
  have hdot : r.typeOf? typeName (p ++ "." ++ q) =
      (r.typeOf? typeName p).bind (r.follow? · (Segment.ofPath q)) := by
    rw [typeOf?, Segment.ofPath_dot, follow?_append]
    rfl
  rw [hdot, hq]
  cases hp : r.typeOf? typeName p with
  | none => rfl
  | some type =>
    rw [Option.bind_some, follow?_eq_foldlM, List.foldlM_cons]
    cases type with
    | object name =>
      rw [← List.foldlM_cons, ← follow?_eq_foldlM, ← hq]
      rfl
    | map value => rfl
    | any =>
      change rest.foldlM r.step? .any = some .any
      rw [← follow?_eq_foldlM, follow?_any]
    | _ => rfl

/-- A type that refers to itself, followed over an empty segment. -/
example :
    let r := empty.register ((Descriptor.empty "Node").declare "next" (.object "Node")
      |>.declare "" (.map (.list (.object "Node"))))
    r.typeOf? "Node" "next.next..x[0].next" = some (.object "Node") ∧
      r.typeOf? "Node" "next..x" = some (.list (.object "Node")) ∧
      r.typeOf? "Node" "next..x.y" = none := by
  decide

end Registry

end SqlTemplate
