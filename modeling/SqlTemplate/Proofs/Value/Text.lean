import Mathlib.Data.String.Basic
import SqlTemplate.Value.Text

/-!
# What stands in the text of a value

The text of a value is made of the texts in it (`Value.texts`: texts at any depth, and the keys of
maps), of digits and words, and of a few marks between them.

**Theorem (`mem_toText_iff`).** A character that is neither a letter, a digit nor one of these marks
stands in the text of a value exactly if it stands in one of the texts in the value. So the text of
a value has a line break only where one of these texts has one.

A number or a literal of bytes is written with characters of the first kind only (`IsPlain`); the
rest follows the nesting of the value.
-/

namespace SqlTemplate

/-! ## Plain characters -/

/-- Whether a character is a letter, a digit or one of the marks that stand around values. -/
def Text.isPlain (c : Char) : Bool :=
  c.isAlphanum || "[]\x7b\x7d=, '.+-".toList.contains c

/-- A text of plain characters. -/
def Text.IsPlain (text : List Char) : Prop := ∀ c ∈ text, isPlain c

namespace Text.IsPlain

variable {u v : List Char} {c : Char}

theorem nil : IsPlain [] := List.forall_mem_nil _

theorem cons (hc : isPlain c) (hu : IsPlain u) : IsPlain (c :: u) :=
  List.forall_mem_cons.2 ⟨hc, hu⟩

theorem append (hu : IsPlain u) (hv : IsPlain v) : IsPlain (u ++ v) :=
  List.forall_mem_append.2 ⟨hu, hv⟩

theorem replicate (n : Nat) (hc : isPlain c) : IsPlain (List.replicate n c) :=
  fun _ hd => List.eq_of_mem_replicate hd ▸ hc

theorem of_subset (hv : IsPlain v) (h : u ⊆ v) : IsPlain u := fun c hc => hv c (h hc)

theorem toDigits (n : Nat) : IsPlain (Nat.toDigits 10 n) := by
  intro c hc
  rw [isPlain, Char.isAlphanum, Nat.isDigit_of_mem_toDigits (by decide) (by decide) hc,
    Bool.or_true, Bool.true_or]

theorem of_decide (h : u.all isPlain = true) : IsPlain u := List.all_eq_true.1 h

theorem toString_int (n : Int) : IsPlain (toString n).toList := by
  rw [Int.toString_eq_repr, Int.repr_eq_if]
  split
  · rw [Nat.toList_repr]
    exact .toDigits _
  · rw [String.toList_append, Nat.toList_repr]
    exact .append (.of_decide (by decide)) (.toDigits _)

end Text.IsPlain

open Text (isPlain IsPlain)

/-! ## Numbers -/

namespace Decimal

variable {digits : List Char}

theorem isPlain_withPoint (hdigits : IsPlain digits) (places : Nat) :
    IsPlain (withPoint digits places) := by
  rw [withPoint]
  split
  · exact (hdigits.of_subset (List.take_subset ..)).append
      (.cons (by decide) (hdigits.of_subset (List.drop_subset ..)))
  · exact (IsPlain.cons (by decide) (.cons (by decide) (.replicate _ (by decide)))).append hdigits

theorem isPlain_afterFirst (hdigits : IsPlain digits) : IsPlain (afterFirst digits) := by
  fun_cases afterFirst digits with
  | case1 => exact hdigits
  | case2 => exact hdigits
  | case3 c rest =>
    obtain ⟨hc, hrest⟩ := List.forall_mem_cons.1 hdigits
    exact .cons hc (.cons (by decide) hrest)

theorem isPlain_magnitudeText (hdigits : IsPlain digits) (scale : Int) :
    IsPlain (magnitudeText digits scale) := by
  rw [magnitudeText]
  split
  · dsimp only
    split
    · exact ((isPlain_afterFirst hdigits).append (.of_decide (by decide))).append (.toDigits _)
    · exact isPlain_withPoint hdigits _
  · dsimp only
    split
    · exact (hdigits.append (.of_decide (by decide))).append (.toDigits _)
    · exact hdigits.append (.replicate _ (by decide))

theorem isPlain_toText (d : Decimal) : IsPlain d.toText.toList := by
  have hmagnitude := isPlain_magnitudeText (.toDigits d.digits.natAbs) d.scale
  rw [toText]
  split
  · exact .of_decide (by decide)
  · rw [String.toList_ofList]
    split
    · exact .cons (by decide) hmagnitude
    · exact hmagnitude

end Decimal

namespace Double

theorem isPlain_signed (negative : Bool) {text : List Char} (h : IsPlain text) :
    IsPlain (signed negative text).toList := by
  rw [signed, String.toList_ofList]
  split
  · exact .cons (by decide) h
  · exact h

theorem isPlain_positional {digits : List Char} (hdigits : IsPlain digits) (power : Int) :
    IsPlain (positional digits power) := by
  rw [positional]
  split
  · exact hdigits.append (.replicate _ (by decide))
  · exact Decimal.isPlain_withPoint hdigits _

theorem isPlain_toText (x : Float) : IsPlain (toText x).toList := by
  rw [toText]
  cases shape x with
  | nan => exact .of_decide (by decide)
  | infinite negative => exact isPlain_signed _ (.of_decide (by decide))
  | zero negative => exact isPlain_signed _ (.of_decide (by decide))
  | finite negative mantissa exponent lowest =>
    exact isPlain_signed _ (isPlain_positional (.toDigits _) _)

end Double

namespace Value

theorem isPlain_hexByte (b : UInt8) : IsPlain (hexByte b) := by
  have hdigit : ∀ n < 16, isPlain (Nat.digitChar n).toUpper := by decide
  have hb := b.toNat_lt
  exact .cons (hdigit _ (by omega)) (.cons (hdigit _ (by omega)) .nil)

/-! ## Texts in a value -/

mutual

/-- The texts in a value: texts at any depth, and the keys of maps. -/
def texts : Value → List String
  | text s => [s]
  | list items => textsOfItems items
  | array items => textsOfItems items
  | map entries => textsOfEntries entries
  | _ => []

/-- The texts in the items of a sequence. -/
def textsOfItems : List Value → List String
  | [] => []
  | item :: rest => texts item ++ textsOfItems rest

/-- The keys of a map, and the texts in its values. -/
def textsOfEntries : List (String × Value) → List String
  | [] => []
  | (key, value) :: rest => key :: texts value ++ textsOfEntries rest

end

section other

variable {c : Char}

theorem not_mem_of_isPlain (hc : isPlain c = false) {text : List Char} (h : IsPlain text) :
    c ∉ text := by
  intro hmem
  rw [h c hmem] at hc
  cases hc

theorem mem_iff_of_isPlain (hc : isPlain c = false) {text : List Char} (h : IsPlain text) :
    c ∈ text ↔ ∃ s ∈ ([] : List String), c ∈ s.toList :=
  iff_of_false (not_mem_of_isPlain hc h) (by simp)

theorem mem_intercalate_iff (hc : isPlain c = false) (parts : List String) :
    c ∈ (", ".intercalate parts).toList ↔ ∃ part ∈ parts, c ∈ part.toList := by
  have hseparator : c ∉ ", ".toList := not_mem_of_isPlain hc (.of_decide (by decide))
  rw [String.toList_intercalate]
  induction parts with
  | nil => simp [List.intercalate]
  | cons part rest ih =>
    cases rest with
    | nil => simp [List.intercalate]
    | cons next rest =>
      rw [List.map_cons, List.map_cons, List.intercalate_cons_cons, ← List.map_cons,
        List.mem_append, List.mem_append, or_iff_left hseparator, List.exists_mem_cons_iff]
      exact or_congr_right ih

theorem mem_enclosed_iff (hc : isPlain c = false) {opening closing : String}
    (hopening : IsPlain opening.toList) (hclosing : IsPlain closing.toList) (parts : List String) :
    c ∈ (opening ++ ", ".intercalate parts ++ closing).toList ↔
      ∃ part ∈ parts, c ∈ part.toList := by
  rw [String.toList_append, String.toList_append, List.mem_append, List.mem_append,
    or_iff_left (not_mem_of_isPlain hc hclosing), or_iff_right (not_mem_of_isPlain hc hopening),
    mem_intercalate_iff hc]

mutual

/-- **All other characters come from the texts in the value.** -/
theorem mem_toText_iff (hc : isPlain c = false) :
    (v : Value) → (c ∈ v.toText.toList ↔ ∃ s ∈ v.texts, c ∈ s.toList)
  | null => mem_iff_of_isPlain hc (.of_decide (by decide))
  | bool true => mem_iff_of_isPlain hc (.of_decide (by decide))
  | bool false => mem_iff_of_isPlain hc (.of_decide (by decide))
  | int n => mem_iff_of_isPlain hc (.toString_int n.toInt)
  | float x => mem_iff_of_isPlain hc (Double.isPlain_toText x)
  | decimal d => mem_iff_of_isPlain hc (Decimal.isPlain_toText d)
  | text s => by simp [toText, texts]
  | bytes bs => by
    refine mem_iff_of_isPlain hc ?_
    rw [toText, String.toList_ofList]
    refine .append (.cons (by decide) (.cons (by decide) fun d hd => ?_)) (.of_decide (by decide))
    obtain ⟨b, -, hd⟩ := List.mem_flatMap.1 hd
    exact isPlain_hexByte b d hd
  | list items => by
    rw [toText, mem_enclosed_iff hc (.of_decide (by decide)) (.of_decide (by decide)), texts,
      mem_itemTexts_iff hc items]
  | array items => by
    rw [toText, mem_enclosed_iff hc (.of_decide (by decide)) (.of_decide (by decide)), texts,
      mem_itemTexts_iff hc items]
  | map entries => by
    rw [toText, mem_enclosed_iff hc (.of_decide (by decide)) (.of_decide (by decide)), texts,
      mem_entryTexts_iff hc entries]

theorem mem_itemTexts_iff (hc : isPlain c = false) : (items : List Value) →
    ((∃ part ∈ itemTexts items, c ∈ part.toList) ↔ ∃ s ∈ textsOfItems items, c ∈ s.toList)
  | [] => .rfl
  | item :: rest => by
    rw [itemTexts, textsOfItems, List.exists_mem_cons_iff, mem_toText_iff hc item,
      mem_itemTexts_iff hc rest]
    simp only [List.mem_append, or_and_right, exists_or]

theorem mem_entryTexts_iff (hc : isPlain c = false) : (entries : List (String × Value)) →
    ((∃ part ∈ entryTexts entries, c ∈ part.toList) ↔ ∃ s ∈ textsOfEntries entries, c ∈ s.toList)
  | [] => .rfl
  | (key, value) :: rest => by
    have hequals : c ∉ "=".toList := not_mem_of_isPlain hc (.of_decide (by decide))
    rw [entryTexts, textsOfEntries, List.exists_mem_cons_iff, String.toList_append,
      String.toList_append, List.mem_append, List.mem_append, or_iff_left hequals,
      mem_toText_iff hc value, mem_entryTexts_iff hc rest, List.cons_append,
      List.exists_mem_cons_iff]
    simp only [List.mem_append, or_and_right, exists_or, or_assoc]

end

end other

/-- A text in a map in a list, under a key of two lines. -/
example :
    let v : Value := .list [.int 3, .map [("k\n", .text "x"), ("m", .bytes [10])]]
    v.texts = ["k\n", "x", "m"] ∧ v.toText = "[3, \x7bk\n=x, m=X'0A'\x7d]" := by
  decide +kernel

end Value

end SqlTemplate
