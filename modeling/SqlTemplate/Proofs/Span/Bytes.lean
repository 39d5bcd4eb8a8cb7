import SqlTemplate.Proofs.Span.Scan
import SqlTemplate.Proofs.Text.Bytes

/-!
# Scanning by bytes

The pass of `Scan.go` keeps places that count characters. Where a text is stored in UTF-8, the pass
keeps places in its bytes: it finds a marker at a byte place, looks back at one byte for a
backslash, and takes its literals and contents between byte places (`ByteScan.go`). What it asks the
text for need not be there.

**Theorem (`scan_eq`).** For all markers, texts and handlers, also with effects, the pass by bytes
does what the pass by characters does. Where the latter has no result, the places of a slice are in
the wrong order; nothing else ever goes wrong, so no place is beyond the text or inside a character.

Each place that the pass comes to is the byte place of the place in characters. There the bytes give
what the characters give: the next marker (`findByteFrom?_eq`), whether it looks escaped
(`byteEscapes_eq`) and the part up to it (`byteSlice_eq`). A backslash is one byte, so the place one
byte before the marker that it escapes is a character's place again.
-/

namespace SqlTemplate

open Text (bytePlace byteLength byteSlice byteAt splitAtByte? slice? escapes PlaceFault)

/-! ## Finding and looking back -/

namespace Text

variable {text : List Char} {i j place : Nat}

/-- What there is between two places; if nothing, they are in the wrong order. -/
def PlaceFault.orBackwards {α : Type} : Option α → Except PlaceFault α
  | none => .error .backwards
  | some a => .ok a

@[simp]
theorem PlaceFault.orBackwards_none {α : Type} :
    orBackwards (none : Option α) = .error .backwards := rfl

@[simp]
theorem PlaceFault.orBackwards_some {α : Type} (a : α) : orBackwards (some a) = .ok a := rfl

/-- Whether the byte directly before a place is a backslash, and not before the place `least`. -/
def byteEscapes (text : List Char) (least place : Nat) : Except PlaceFault Bool :=
  if least < place then (byteAt text (place - 1)).map (· == 0x5c) else .ok false

theorem byteSlice_eq (hi : i ≤ text.length) (hj : j ≤ text.length) :
    byteSlice text (bytePlace text i) (bytePlace text j) =
      PlaceFault.orBackwards (slice? text i j) := by
  rw [slice?]
  split
  · next h => exact byteSlice_bytePlace h.1 hj
  · next h => exact byteSlice_bytePlace_backwards (by omega) hi

/-- A place that is not the first one has a character before it. -/
theorem exists_before (hpos : 0 < place) (hplace : place ≤ text.length) :
    ∃ before c after, text = before ++ c :: after ∧ place = before.length + 1 := by
  have hlt : place - 1 < text.length := by omega
  refine ⟨text.take (place - 1), text[place - 1], text.drop (place - 1 + 1), ?_, ?_⟩
  · rw [← List.drop_eq_getElem_cons hlt, List.take_append_drop]
  · rw [List.length_take]
    omega

theorem bytePlace_succ (before after : List Char) (c : Char) :
    bytePlace (before ++ c :: after) (before.length + 1) = byteLength before + c.utf8Size := by
  rw [bytePlace_add, bytePlace_append, List.drop_left]
  rfl

theorem escapes_succ (before after : List Char) (c : Char) :
    escapes (before ++ c :: after) i (before.length + 1) =
      (decide (i < before.length + 1) && c == '\\') := by
  rw [escapes, Nat.add_sub_cancel, List.getElem?_append_right (Nat.le_refl _), Nat.sub_self]
  rfl

/-- **Looking back at a byte is looking back at a character.** -/
theorem byteEscapes_eq (hi : i ≤ text.length) (hplace : place ≤ text.length) :
    byteEscapes text (bytePlace text i) (bytePlace text place) = .ok (escapes text i place) := by
  by_cases hlt : i < place
  · have hlt' := bytePlace_strictMono hlt hplace
    obtain ⟨before, c, after, rfl, rfl⟩ := exists_before (Nat.zero_lt_of_lt hlt) hplace
    obtain ⟨b, hb, hc⟩ := exists_byteAt_before before after c
    rw [byteEscapes, if_pos hlt', bytePlace_succ, hb, escapes_succ, decide_eq_true hlt,
      Bool.true_and]
    refine congrArg Except.ok ?_
    rw [Bool.eq_iff_iff, beq_iff_eq, beq_iff_eq]
    exact hc
  · rw [byteEscapes, escapes, if_neg (by rwa [bytePlace_lt_iff hplace]), decide_eq_false hlt,
      Bool.false_and]

/-- A backslash is one byte. -/
theorem bytePlace_sub_one (hplace : place ≤ text.length) (h : escapes text i place = true) :
    bytePlace text place - 1 = bytePlace text (place - 1) := by
  have hpos : 0 < place := by
    rw [escapes, Bool.and_eq_true, decide_eq_true_iff] at h
    omega
  obtain ⟨before, c, after, rfl, rfl⟩ := exists_before hpos hplace
  rw [escapes_succ, Bool.and_eq_true, beq_iff_eq] at h
  rw [bytePlace_succ, h.2, Nat.add_sub_cancel, bytePlace_append]
  rfl

section look

variable {least : Nat} (hleast : least ≤ text.length) (hi : i ≤ text.length)
  (hplace : place ≤ text.length)
include hleast hi hplace

/-- After a backslash the part ends before it. -/
theorem bytes_of_escapes (h : escapes text least place = true) :
    byteEscapes text (bytePlace text least) (bytePlace text place) = .ok true ∧
      byteSlice text (bytePlace text i) (bytePlace text place - 1) =
        PlaceFault.orBackwards (slice? text i (place - 1)) := by
  rw [byteEscapes_eq hleast hplace, h, bytePlace_sub_one hplace h, byteSlice_eq hi (by omega)]
  exact ⟨rfl, rfl⟩

theorem bytes_of_not_escapes (h : ¬ escapes text least place = true) :
    byteEscapes text (bytePlace text least) (bytePlace text place) = .ok false ∧
      byteSlice text (bytePlace text i) (bytePlace text place) =
        PlaceFault.orBackwards (slice? text i place) := by
  rw [byteEscapes_eq hleast hplace, Bool.eq_false_iff.2 h, byteSlice_eq hi hplace]
  exact ⟨rfl, rfl⟩

end look

end Text

namespace Marker

variable {m : Marker} {text : List Char} {i place start : Nat}

/-- The first byte place of a marker in a text. -/
def findByte? (m : Marker) : List Char → Option Nat
  | [] => none
  | c :: rest =>
    if (m.strip? c rest).isSome then some 0 else (m.findByte? rest).map (· + c.utf8Size)

/-- The first byte place of a marker in a text, from a byte place on. -/
def findByteFrom? (m : Marker) (text : List Char) (start : Nat) : Option Nat :=
  match splitAtByte? text start with
  | none => none
  | some (_, rest) => (m.findByte? rest).map (· + start)

theorem findByte?_eq (m : Marker) (text : List Char) :
    m.findByte? text = (m.find? text).map (bytePlace text) := by
  induction text with
  | nil => rfl
  | cons c rest ih =>
    rw [findByte?, find?]
    split
    · rfl
    · rw [ih, Option.map_map, Option.map_map]
      refine congrArg (Option.map · _) (funext fun i => ?_)
      exact Nat.add_comm _ _

theorem findByteFrom?_eq (m : Marker) (text : List Char) (i : Nat) :
    m.findByteFrom? text (bytePlace text i) = (m.findFrom? text i).map (bytePlace text) := by
  rw [findByteFrom?, Text.splitAtByte?_bytePlace, findFrom?]
  simp only [findByte?_eq, Option.map_map]
  refine congrArg (Option.map · _) (funext fun j => ?_)
  simp only [Function.comp_apply]
  rw [Nat.add_comm j, Text.bytePlace_add, Nat.add_comm]

theorem bytePlace_of_findFrom? (h : m.findFrom? text i = some place) :
    bytePlace text (place + m.chars.length) = bytePlace text place + byteLength m.chars := by
  obtain ⟨j, hj, rfl⟩ := Option.map_eq_some_iff.1 h
  obtain ⟨w, after, hdrop, hw⟩ := exists_leads hj
  rw [hdrop, hw.find?] at hj
  cases hj
  have hplace : text.drop (w.length + i) = m.chars ++ after := by
    rw [Nat.add_comm, ← List.drop_drop, hdrop, List.drop_left]
  rw [Text.bytePlace_add, hplace, Text.bytePlace_append]

theorem findByteFrom?_le (h : m.findByteFrom? text start = some place) :
    start ≤ place ∧ place + byteLength m.chars ≤ byteLength text := by
  have hsplit : ∃ before after, text = before ++ after ∧ start = byteLength before := by
    rw [findByteFrom?] at h
    split at h
    · cases h
    · next before after hsplit => exact ⟨before, after, Text.splitAtByte?_eq_some_iff.1 hsplit⟩
  obtain ⟨before, after, rfl, rfl⟩ := hsplit
  rw [← Text.bytePlace_append before after, findByteFrom?_eq, Option.map_eq_some_iff] at h
  obtain ⟨i, hi, rfl⟩ := h
  have hle := findFrom?_le hi
  rw [← bytePlace_of_findFrom? hi, ← Text.bytePlace_append before after]
  exact ⟨Text.bytePlace_mono hle.1, Text.bytePlace_le _ _⟩

end Marker

/-! ## The pass -/

theorem Marker.byteLength_chars_pos (m : Marker) : 0 < byteLength m.chars :=
  Text.byteLength_pos (List.cons_ne_nil m.first m.more)

/-- The content that is read ends where a closing marker is found. -/
theorem Scan.exists_findFrom?_of_content {closing : Marker} {text expression buffer : List Char}
    {offset place : Nat} (h : content closing text expression offset = some (buffer, some place)) :
    ∃ i, closing.findFrom? text i = some place := by
  fun_induction content closing text expression offset with
  | case1 => cases h
  | case2 => cases h
  | case3 _ _ _ _ _ _ _ ih => exact ih h
  | case4 => cases h
  | case5 _ _ _ hplace =>
    cases h
    exact ⟨_, hplace⟩

namespace ByteScan

open Text (byteEscapes)

/-- Reads a content from a place on, into the buffer. The result is the buffer and the place of the
closing marker, if there is one. A marker at the very place is not escaped. -/
def content (closing : Marker) (text expression : List Char) (offset : Nat) :
    Except PlaceFault (List Char × Option Nat) :=
  match _h : closing.findByteFrom? text offset with
  | none => .ok (expression, none)
  | some place =>
    match byteEscapes text offset place with
    | .error fault => .error fault
    | .ok true =>
      match byteSlice text offset (place - 1) with
      | .error fault => .error fault
      | .ok part =>
        content closing text (expression ++ part ++ closing.chars)
          (place + byteLength closing.chars)
    | .ok false =>
      match byteSlice text offset place with
      | .error fault => .error fault
      | .ok part => .ok (expression ++ part, some place)
termination_by byteLength text - offset
decreasing_by
  have := Marker.findByteFrom?_le _h
  have := closing.byteLength_chars_pos
  omega

theorem content_le {closing : Marker} {text expression buffer : List Char} {offset place : Nat}
    (h : content closing text expression offset = .ok (buffer, some place)) :
    offset ≤ place ∧ place + byteLength closing.chars ≤ byteLength text := by
  fun_induction content closing text expression offset with
  | case1 => cases h
  | case2 => cases h
  | case3 => cases h
  | case4 _ _ _ hplace _ _ _ ih =>
    have := Marker.findByteFrom?_le hplace
    have := ih h
    omega
  | case5 => cases h
  | case6 _ _ _ hplace =>
    cases h
    exact Marker.findByteFrom?_le hplace

/-- Goes through a text from a place on. `out` has been put out so far, and `expression` is the
buffer of the content before. -/
def go {M : Type → Type} [Monad M] (markers : Markers) (handler : String → M String)
    (text : List Char) (out : String) (expression : List Char) (offset : Nat) :
    M (Except PlaceFault String) :=
  match _h : markers.opening.findByteFrom? text offset with
  | none =>
    if offset < byteLength text then
      return (byteSlice text offset (byteLength text)).map fun rest => out ++ String.ofList rest
    else return .ok out
  | some start =>
    match byteEscapes text 0 start with
    | .error fault => return .error fault
    | .ok true =>
      match byteSlice text offset (start - 1) with
      | .error fault => return .error fault
      | .ok lead =>
        go markers handler text
          (out ++ String.ofList lead ++ String.ofList markers.opening.chars) expression
          (start + byteLength markers.opening.chars)
    | .ok false =>
      match byteSlice text offset start with
      | .error fault => return .error fault
      | .ok lead =>
        -- The buffer is empty again.
        match _h' : content markers.closing text [] (start + byteLength markers.opening.chars) with
        | .error fault => return .error fault
        | .ok (expression, none) =>
          match byteSlice text start (byteLength text) with
          | .error fault => return .error fault
          | .ok rest =>
            go markers handler text (out ++ String.ofList lead ++ String.ofList rest)
              expression (byteLength text)
        | .ok (expression, some place) => do
          let replacement ← handler (String.ofList expression)
          go markers handler text (out ++ String.ofList lead ++ replacement) expression
            (place + byteLength markers.closing.chars)
termination_by byteLength text - offset
decreasing_by
  · have := Marker.findByteFrom?_le _h
    have := markers.opening.byteLength_chars_pos
    omega
  · have := Marker.findByteFrom?_le _h
    have := markers.opening.byteLength_chars_pos
    omega
  · have := Marker.findByteFrom?_le _h
    have := content_le _h'
    have := markers.closing.byteLength_chars_pos
    omega

/-- Replaces every span in one pass. Without a marker there is nothing to do. -/
def scan {M : Type → Type} [Monad M] (opening closing : String) (handler : String → M String)
    (text : String) : M (Except PlaceFault String) :=
  match Markers.ofStrings? opening closing with
  | none => return .ok text
  | some markers =>
    match markers.opening.findByteFrom? text.toList 0 with
    | none => return .ok text
    | some _ => go markers handler text.toList "" [] 0

/-! ## The bytes take the way of the characters -/

open Text.PlaceFault (orBackwards)

section simulation

variable {text : List Char} {offset : Nat}

/-- One round of reading a content; that it comes to an end does not matter here. -/
theorem content_round (closing : Marker) (text expression : List Char) (offset : Nat) :
    content closing text expression offset =
      match closing.findByteFrom? text offset with
      | none => .ok (expression, none)
      | some place =>
        match byteEscapes text offset place with
        | .error fault => .error fault
        | .ok true =>
          match byteSlice text offset (place - 1) with
          | .error fault => .error fault
          | .ok part =>
            content closing text (expression ++ part ++ closing.chars)
              (place + byteLength closing.chars)
        | .ok false =>
          match byteSlice text offset place with
          | .error fault => .error fault
          | .ok part => .ok (expression ++ part, some place) := by
  rw [content]
  split
  · next h => rw [h]
  · next h => rw [h]

/-- **Reading a content by bytes is reading it by characters.** -/
theorem content_eq (closing : Marker) (expression : List Char) (hoffset : offset ≤ text.length) :
    content closing text expression (bytePlace text offset) =
      orBackwards ((Scan.content closing text expression offset).map fun result =>
        (result.1, result.2.map (bytePlace text))) := by
  fun_induction Scan.content closing text expression offset with
  | case1 expression offset hplace =>
    rw [content_round, Marker.findByteFrom?_eq, hplace]
    rfl
  | case2 expression offset place hplace hescaped hpart =>
    have hle := Marker.findFrom?_le hplace
    obtain ⟨hescapes, hslice⟩ := Text.bytes_of_escapes hoffset hoffset (by omega) hescaped
    rw [content_round, Marker.findByteFrom?_eq, hplace, Option.map_some]
    simp [hescapes, hslice, hpart]
  | case3 expression offset place hplace hescaped part hpart ih =>
    have hle := Marker.findFrom?_le hplace
    obtain ⟨hescapes, hslice⟩ := Text.bytes_of_escapes hoffset hoffset (by omega) hescaped
    rw [content_round, Marker.findByteFrom?_eq, hplace, Option.map_some, ← ih hle.2,
      Marker.bytePlace_of_findFrom? hplace]
    simp [hescapes, hslice, hpart]
  | case4 expression offset place hplace hescaped hpart =>
    have hle := Marker.findFrom?_le hplace
    obtain ⟨hescapes, hslice⟩ := Text.bytes_of_not_escapes hoffset hoffset (by omega) hescaped
    rw [content_round, Marker.findByteFrom?_eq, hplace, Option.map_some]
    simp [hescapes, hslice, hpart]
  | case5 expression offset place hplace hescaped part hpart =>
    have hle := Marker.findFrom?_le hplace
    obtain ⟨hescapes, hslice⟩ := Text.bytes_of_not_escapes hoffset hoffset (by omega) hescaped
    rw [content_round, Marker.findByteFrom?_eq, hplace, Option.map_some]
    simp [hescapes, hslice, hpart]

section go

variable {M : Type → Type} [Monad M] (m : Markers) (handler : String → M String)

/-- One round of the pass. -/
theorem go_round (text : List Char) (out : String) (expression : List Char) (offset : Nat) :
    go m handler text out expression offset =
      match m.opening.findByteFrom? text offset with
      | none =>
        if offset < byteLength text then
          return (byteSlice text offset (byteLength text)).map fun rest => out ++ String.ofList rest
        else return .ok out
      | some start =>
        match byteEscapes text 0 start with
        | .error fault => return .error fault
        | .ok true =>
          match byteSlice text offset (start - 1) with
          | .error fault => return .error fault
          | .ok lead =>
            go m handler text
              (out ++ String.ofList lead ++ String.ofList m.opening.chars) expression
              (start + byteLength m.opening.chars)
        | .ok false =>
          match byteSlice text offset start with
          | .error fault => return .error fault
          | .ok lead =>
            match content m.closing text [] (start + byteLength m.opening.chars) with
            | .error fault => return .error fault
            | .ok (expression, none) =>
              match byteSlice text start (byteLength text) with
              | .error fault => return .error fault
              | .ok rest =>
                go m handler text (out ++ String.ofList lead ++ String.ofList rest) expression
                  (byteLength text)
            | .ok (expression, some place) =>
              handler (String.ofList expression) >>= fun replacement =>
                go m handler text (out ++ String.ofList lead ++ replacement) expression
                  (place + byteLength m.closing.chars) := by
  rw [go]
  split
  · next h => simp only [h]
  · next h =>
    simp only [h]
    split
    · rfl
    · rfl
    · split
      · rfl
      · split
        · next h => simp only [h]
        · next h => simp only [h]
        · next h => simp only [h]

section places

variable {m handler} {out : String} {expression : List Char} {start : Nat}
  (hoffset : offset ≤ text.length) (hstart : m.opening.findFrom? text offset = some start)
include hoffset hstart

theorem go_at_escaped (hescaped : escapes text 0 start = true) :
    go m handler text out expression (bytePlace text offset) =
      match slice? text offset (start - 1) with
      | none => return .error .backwards
      | some lead =>
        go m handler text (out ++ String.ofList lead ++ String.ofList m.opening.chars) expression
          (bytePlace text (start + m.opening.chars.length)) := by
  have hle := Marker.findFrom?_le hstart
  obtain ⟨hescapes, hslice⟩ :=
    Text.bytes_of_escapes (Nat.zero_le _) hoffset (by omega) hescaped
  rw [Text.bytePlace_zero] at hescapes
  rw [go_round, Marker.findByteFrom?_eq, hstart, Option.map_some,
    Marker.bytePlace_of_findFrom? hstart]
  simp only [hescapes, hslice]
  cases slice? text offset (start - 1) <;> rfl

theorem go_at_opening (hescaped : ¬ escapes text 0 start = true) :
    go m handler text out expression (bytePlace text offset) =
      match slice? text offset start with
      | none => return .error .backwards
      | some lead =>
        match Scan.content m.closing text [] (start + m.opening.chars.length) with
        | none => return .error .backwards
        | some (expression, none) =>
          match slice? text start text.length with
          | none => return .error .backwards
          | some rest =>
            go m handler text (out ++ String.ofList lead ++ String.ofList rest) expression
              (bytePlace text text.length)
        | some (expression, some place) =>
          handler (String.ofList expression) >>= fun replacement =>
            go m handler text (out ++ String.ofList lead ++ replacement) expression
              (bytePlace text (place + m.closing.chars.length)) := by
  have hle := Marker.findFrom?_le hstart
  obtain ⟨hescapes, hslice⟩ :=
    Text.bytes_of_not_escapes (Nat.zero_le _) hoffset (by omega) hescaped
  have hrest := Text.byteSlice_eq (show start ≤ text.length by omega) (Nat.le_refl text.length)
  have hcontent := content_eq m.closing [] hle.2
  rw [Text.bytePlace_zero] at hescapes
  rw [Text.bytePlace_length] at hrest
  rw [Marker.bytePlace_of_findFrom? hstart] at hcontent
  rw [go_round, Marker.findByteFrom?_eq, hstart, Option.map_some, Text.bytePlace_length]
  simp only [hescapes, hslice, hcontent, hrest]
  cases slice? text offset start with
  | none => rfl
  | some lead =>
    cases hchars : Scan.content m.closing text [] (start + m.opening.chars.length) with
    | none => rfl
    | some result =>
      obtain ⟨buffer, _ | place⟩ := result
      · cases slice? text start text.length <;> rfl
      · obtain ⟨i, hplace⟩ := Scan.exists_findFrom?_of_content hchars
        have hend := Marker.bytePlace_of_findFrom? hplace
        simp only [Option.map_some, Text.PlaceFault.orBackwards_some, hend]

end places

/-- **The bytes take the way of the characters,** and only the order of places can be wrong. -/
theorem go_eq [LawfulMonad M] (out : String) (expression : List Char)
    (hoffset : offset ≤ text.length) :
    go m handler text out expression (bytePlace text offset) =
      orBackwards <$> Scan.go m handler text out expression offset := by
  have hend := Nat.le_refl text.length
  fun_induction Scan.go m handler text out expression offset with
  | case1 out expression offset hstart hlt =>
    have hslice := Text.byteSlice_eq hoffset hend
    have hlt' := Text.bytePlace_strictMono hlt hend
    rw [Text.bytePlace_length] at hslice hlt'
    rw [go_round, Marker.findByteFrom?_eq, hstart, Option.map_none]
    simp only [if_pos hlt', hslice, map_pure]
    cases slice? text offset text.length <;> rfl
  | case2 out expression offset hstart hlt =>
    have hlt' := mt (Text.bytePlace_lt_iff hend).1 hlt
    rw [Text.bytePlace_length] at hlt'
    rw [go_round, Marker.findByteFrom?_eq, hstart, Option.map_none]
    simp only [if_neg hlt', map_pure, Text.PlaceFault.orBackwards_some]
  | case3 out expression offset start hstart hescaped hpart =>
    simp only [go_at_escaped hoffset hstart hescaped, hpart, map_pure,
      Text.PlaceFault.orBackwards_none]
  | case4 out expression offset start hstart hescaped part hpart ih =>
    simp only [go_at_escaped hoffset hstart hescaped, hpart]
    exact ih (Marker.findFrom?_le hstart).2
  | case5 out expression offset start hstart hescaped hpart =>
    simp only [go_at_opening hoffset hstart hescaped, hpart, map_pure,
      Text.PlaceFault.orBackwards_none]
  | case6 out expression offset start hstart hescaped part hpart hcontent =>
    simp only [go_at_opening hoffset hstart hescaped, hpart, hcontent, map_pure,
      Text.PlaceFault.orBackwards_none]
  | case7 out expression offset start hstart hescaped part hpart buffer hcontent hrest =>
    simp only [go_at_opening hoffset hstart hescaped, hpart, hcontent, hrest, map_pure,
      Text.PlaceFault.orBackwards_none]
  | case8 out expression offset start hstart hescaped part hpart buffer hcontent rest hrest ih =>
    simp only [go_at_opening hoffset hstart hescaped, hpart, hcontent, hrest]
    exact ih hend
  | case9 out expression offset start hstart hescaped part hpart buffer place hcontent ih =>
    simp only [go_at_opening hoffset hstart hescaped, hpart, hcontent, map_bind]
    exact bind_congr fun replacement => ih replacement (Scan.content_le hcontent).2

/-- **Scanning by bytes is scanning by characters.** -/
theorem scan_eq [LawfulMonad M] {opening closing : String}
    (h : Markers.ofStrings? opening closing = some m) (text : String) :
    scan opening closing handler text = orBackwards <$> m.scanM handler text := by
  have hplace := Marker.findByteFrom?_eq m.opening text.toList 0
  rw [Text.bytePlace_zero] at hplace
  simp only [scan, h, hplace, Markers.scanM]
  cases m.opening.findFrom? text.toList 0 with
  | none => exact (map_pure (f := M) orBackwards (some text)).symm
  | some start => exact go_eq m handler "" [] (Nat.zero_le _)

end go

end simulation

end ByteScan

end SqlTemplate
