import SqlTemplate.Proofs.Number.Order
import SqlTemplate.Value.Json

/-!
# JSON values through values and back

A JSON value that is taken as a parameter and written again goes through a value. The value holds
it exactly (`Held`): the same items and keys in the same order, the same texts and floating-point
numbers, and every integer with its full value.

Coming back changes nothing but numbers, and each number by itself (`toJson_ofJson`). What comes
back for a number is the number, except for an integer beyond 64 bits with sign: it was held as a
decimal, and decimals are written as texts (`Number.settled`).

**Theorem (`toJson_ofJson_eq_settled`).** A JSON value comes back with the large integers in it as
texts of their digits, and so comes back as it was exactly if there is none.

The theorem is about JSON values whose floating-point numbers are finite; JSON has no others.
-/

namespace SqlTemplate

/-! ## Numbers in a JSON value -/

namespace Json

mutual

/-- A JSON value with something in the place of each number. -/
def mapNumbers (f : Number → Json) : Json → Json
  | .number n => f n
  | .array items => .array (mapNumbersItems f items)
  | .object members => .object (mapNumbersMembers f members)
  | .null => .null
  | .bool b => .bool b
  | .text t => .text t

/-- The items of an array with something in the place of each number. -/
def mapNumbersItems (f : Number → Json) : List Json → List Json
  | [] => []
  | item :: rest => mapNumbers f item :: mapNumbersItems f rest

/-- The members of an object with something in the place of each number. -/
def mapNumbersMembers (f : Number → Json) : List (String × Json) → List (String × Json)
  | [] => []
  | (key, value) :: rest => (key, mapNumbers f value) :: mapNumbersMembers f rest

end

mutual

/-- The numbers in a JSON value, in order. -/
def numbers : Json → List Number
  | .number n => [n]
  | .array items => numbersItems items
  | .object members => numbersMembers members
  | .null | .bool _ | .text _ => []

/-- The numbers in the items of an array. -/
def numbersItems : List Json → List Number
  | [] => []
  | item :: rest => numbers item ++ numbersItems rest

/-- The numbers in the members of an object. -/
def numbersMembers : List (String × Json) → List Number
  | [] => []
  | (_, value) :: rest => numbers value ++ numbersMembers rest

end

section mapNumbers

variable {f g : Number → Json}

mutual

/-- **Two ways to replace numbers give the same exactly if they agree on those that are there.** -/
theorem mapNumbers_eq_mapNumbers_iff : (j : Json) →
    (j.mapNumbers f = j.mapNumbers g ↔ ∀ n ∈ j.numbers, f n = g n)
  | .null => by simp [mapNumbers, numbers]
  | .bool _ => by simp [mapNumbers, numbers]
  | .number n => by simp [mapNumbers, numbers]
  | .text _ => by simp [mapNumbers, numbers]
  | .array items => by
    rw [mapNumbers, mapNumbers, Json.array.injEq, numbers]
    exact mapNumbersItems_eq_mapNumbersItems_iff items
  | .object members => by
    rw [mapNumbers, mapNumbers, Json.object.injEq, numbers]
    exact mapNumbersMembers_eq_mapNumbersMembers_iff members

theorem mapNumbersItems_eq_mapNumbersItems_iff : (items : List Json) →
    (mapNumbersItems f items = mapNumbersItems g items ↔ ∀ n ∈ numbersItems items, f n = g n)
  | [] => by simp [mapNumbersItems, numbersItems]
  | item :: rest => by
    rw [mapNumbersItems, mapNumbersItems, numbersItems, List.cons.injEq, List.forall_mem_append,
      mapNumbers_eq_mapNumbers_iff item, mapNumbersItems_eq_mapNumbersItems_iff rest]

theorem mapNumbersMembers_eq_mapNumbersMembers_iff : (members : List (String × Json)) →
    (mapNumbersMembers f members = mapNumbersMembers g members ↔
      ∀ n ∈ numbersMembers members, f n = g n)
  | [] => by simp [mapNumbersMembers, numbersMembers]
  | (key, value) :: rest => by
    rw [mapNumbersMembers, mapNumbersMembers, numbersMembers, List.cons.injEq, Prod.mk.injEq,
      List.forall_mem_append, mapNumbers_eq_mapNumbers_iff value,
      mapNumbersMembers_eq_mapNumbersMembers_iff rest, and_iff_right rfl]

end

mutual

@[simp] theorem mapNumbers_number : (j : Json) → j.mapNumbers .number = j
  | .null | .bool _ | .number _ | .text _ => rfl
  | .array items => congrArg Json.array (mapNumbersItems_number items)
  | .object members => congrArg Json.object (mapNumbersMembers_number members)

theorem mapNumbersItems_number : (items : List Json) → mapNumbersItems .number items = items
  | [] => rfl
  | item :: rest => by
    rw [mapNumbersItems, mapNumbers_number item, mapNumbersItems_number rest]

theorem mapNumbersMembers_number : (members : List (String × Json)) →
    mapNumbersMembers .number members = members
  | [] => rfl
  | (key, value) :: rest => by
    rw [mapNumbersMembers, mapNumbers_number value, mapNumbersMembers_number rest]

end

/-- Nothing changes exactly if no number does. -/
theorem mapNumbers_eq_self_iff {j : Json} :
    j.mapNumbers f = j ↔ ∀ n ∈ j.numbers, f n = .number n := by
  rw [← mapNumbers_eq_mapNumbers_iff, mapNumbers_number]

end mapNumbers

/-- The floating-point numbers in a JSON value are finite. -/
def Finite (j : Json) : Prop := ∀ x, .float x ∈ j.numbers → x.isFinite

namespace Number

/-- What comes back for a number. -/
def settled : Number → Json
  | .large n _ => .text (toString n)
  | n => .number n

/-- An integer beyond 64 bits with sign. -/
def IsLarge : Number → Prop
  | .large _ _ => True
  | _ => False

theorem settled_eq_number_iff {n : Number} : n.settled = .number n ↔ ¬ n.IsLarge := by
  cases n <;> simp [settled, IsLarge]

end Number

end Json

/-! ## What a value holds -/

mutual

/-- A value holds a JSON value exactly; an integer that is held as a decimal has its full value. -/
inductive Held : Json → Value → Prop
  | null : Held .null .null
  | bool (b : Bool) : Held (.bool b) (.bool b)
  | int (n : Int64) : Held (.number (.int n)) (.int n)
  | large (n : Nat) (fits : 0x8000000000000000 ≤ n ∧ n ≤ 0xffffffffffffffff) (d : Decimal)
      (exact : d.value = n) : Held (.number (.large n fits)) (.decimal d)
  | float (x : Float) : Held (.number (.float x)) (.float x)
  | text (t : String) : Held (.text t) (.text t)
  | array {items : List Json} {values : List Value} (held : HeldItems items values) :
      Held (.array items) (.list values)
  | object {members : List (String × Json)} {entries : List (String × Value)}
      (held : HeldMembers members entries) : Held (.object members) (.map entries)

/-- The values of a list hold the items of an array, one for one. -/
inductive HeldItems : List Json → List Value → Prop
  | nil : HeldItems [] []
  | cons {item : Json} {value : Value} {items : List Json} {values : List Value}
      (first : Held item value) (rest : HeldItems items values) :
      HeldItems (item :: items) (value :: values)

/-- The entries of a map hold the members of an object, one for one and under the same keys. -/
inductive HeldMembers : List (String × Json) → List (String × Value) → Prop
  | nil : HeldMembers [] []
  | cons {member : Json} {value : Value} {members : List (String × Json)}
      {entries : List (String × Value)} (key : String) (first : Held member value)
      (rest : HeldMembers members entries) :
      HeldMembers ((key, member) :: members) ((key, value) :: entries)

end

namespace Decimal

theorem value_ofInt (n : Int) : (ofInt n).value = n := by
  simp [value, ofInt]

/-- An integer is written with its digits, without point or exponent. -/
theorem toText_ofInt_natCast (n : Nat) : (ofInt n).toText = toString n := by
  rcases Nat.eq_zero_or_pos n with rfl | hn
  · rfl
  · have hne : (ofInt n).digits ≠ 0 := Int.natCast_ne_zero.2 (Nat.ne_of_gt hn)
    have hnonneg : ¬ (ofInt n).digits < 0 := Int.not_lt.2 (Int.natCast_nonneg n)
    rw [toText, if_neg hne, ← String.toList_inj, String.toList_ofList]
    rw [if_neg hnonneg]
    simp [magnitudeText, ofInt]

end Decimal

namespace Value

mutual

/-- **A JSON value is held exactly** by the value that it becomes. -/
theorem held_ofJson : (j : Json) → Held j (ofJson j)
  | .null => .null
  | .bool b => .bool b
  | .number (.int n) => .int n
  | .number (.large n fits) => .large n fits (Decimal.ofInt n) (Decimal.value_ofInt n)
  | .number (.float x) => .float x
  | .text t => .text t
  | .array items => .array (heldItems_ofJsonItems items)
  | .object members => .object (heldMembers_ofJsonMembers members)

theorem heldItems_ofJsonItems : (items : List Json) → HeldItems items (ofJsonItems items)
  | [] => .nil
  | item :: rest => .cons (held_ofJson item) (heldItems_ofJsonItems rest)

theorem heldMembers_ofJsonMembers : (members : List (String × Json)) →
    HeldMembers members (ofJsonMembers members)
  | [] => .nil
  | (key, value) :: rest => .cons key (held_ofJson value) (heldMembers_ofJsonMembers rest)

end

/-! ## What comes back -/

mutual

/-- Coming back changes nothing but numbers, and each number by itself. -/
theorem toJson_ofJson : (j : Json) →
    (ofJson j).toJson = j.mapNumbers fun n => (ofJson (.number n)).toJson
  | .null | .bool _ | .number _ | .text _ => rfl
  | .array items => congrArg Json.array (toJsonItems_ofJsonItems items)
  | .object members => congrArg Json.object (toJsonMembers_ofJsonMembers members)

theorem toJsonItems_ofJsonItems : (items : List Json) →
    toJsonItems (ofJsonItems items) =
      Json.mapNumbersItems (fun n => (ofJson (.number n)).toJson) items
  | [] => rfl
  | item :: rest => by
    rw [ofJsonItems, toJsonItems, Json.mapNumbersItems, toJson_ofJson item,
      toJsonItems_ofJsonItems rest]

theorem toJsonMembers_ofJsonMembers : (members : List (String × Json)) →
    toJsonMembers (ofJsonMembers members) =
      Json.mapNumbersMembers (fun n => (ofJson (.number n)).toJson) members
  | [] => rfl
  | (key, value) :: rest => by
    rw [ofJsonMembers, toJsonMembers, Json.mapNumbersMembers, toJson_ofJson value,
      toJsonMembers_ofJsonMembers rest]

end

/-- A number comes back settled, unless it is infinite or none at all. -/
theorem toJson_ofJson_number {n : Json.Number} (h : ∀ x, n = .float x → x.isFinite) :
    (ofJson (.number n)).toJson = n.settled := by
  cases n with
  | int n => rfl
  | large n fits => exact congrArg Json.text (Decimal.toText_ofInt_natCast n)
  | float x => exact if_pos (h x rfl)

/-- **A JSON value is held exactly and comes back with its large integers as texts**; it comes back
as it was exactly if there are none. -/
theorem toJson_ofJson_eq_settled (j : Json) (h : j.Finite) :
    Held j (ofJson j) ∧ (ofJson j).toJson = j.mapNumbers Json.Number.settled ∧
      ((ofJson j).toJson = j ↔ ∀ n ∈ j.numbers, ¬ n.IsLarge) := by
  -- Only the numbers that are in the value matter, and of these the floating-point ones are finite.
  have hback : (ofJson j).toJson = j.mapNumbers Json.Number.settled := by
    rw [toJson_ofJson, Json.mapNumbers_eq_mapNumbers_iff]
    exact fun n hn => toJson_ofJson_number fun x hx => h x (hx ▸ hn)
  refine ⟨held_ofJson j, hback, ?_⟩
  rw [hback, Json.mapNumbers_eq_self_iff]
  exact forall₂_congr fun n _ => Json.Number.settled_eq_number_iff

/-- The integers on both sides of the limit, beside a number with a fraction; only the one beyond
the limit comes back as a text. -/
theorem toJson_ofJson_eq_settled_of_limit :
    let least : Json.Number := .large 9223372036854775808 (by decide)
    let limit : Json.Number := .int 9223372036854775807
    let j (n : Json.Number) : Json :=
      .object [("ids", .array [.number limit, .number n]), ("rate", .number (.float 0.5))]
    (j least).Finite ∧
      (ofJson (j least)).toJson = .object [("ids",
        .array [.number limit, .text "9223372036854775808"]), ("rate", .number (.float 0.5))] ∧
      (ofJson (j least)).toJson ≠ j least ∧ (ofJson (j limit)).toJson = j limit := by
  intro least limit j
  have hfinite (n : Json.Number) (hn : ∀ x, n ≠ .float x) : (j n).Finite := by
    intro x hx
    obtain h | h | h : .float x = limit ∨ .float x = n ∨ Json.Number.float x = .float 0.5 := by
      simpa [j, Json.numbers, Json.numbersMembers, Json.numbersItems] using hx
    · exact absurd h nofun
    · exact absurd h.symm (hn x)
    · cases h
      decide
  obtain ⟨-, hleast, hiff⟩ := toJson_ofJson_eq_settled (j least) (hfinite _ nofun)
  obtain ⟨-, -, hlimit⟩ := toJson_ofJson_eq_settled (j limit) (hfinite _ nofun)
  refine ⟨hfinite _ nofun, hleast, fun h => ?_, hlimit.2 fun n hn => ?_⟩
  · exact hiff.1 h least (by simp [j, Json.numbers, Json.numbersMembers, Json.numbersItems]) trivial
  · obtain rfl | rfl | rfl : n = limit ∨ n = limit ∨ n = .float 0.5 := by
      simpa [j, Json.numbers, Json.numbersMembers, Json.numbersItems] using hn
    all_goals exact not_false

end Value

end SqlTemplate
