import Mathlib.Data.List.Nodup
import SqlTemplate.Template.Json

/-!
# The members of a condition or a loop

The members of a stored condition or loop are read one after the other, and what they tell is kept
in `Fields`. The order in which they stand does not count: if no key comes twice and each member
tells what some fields `g` hold under its key (`Tells`), then reading succeeds and what was read is
part of `g` (`Part`).

**Theorem (`exists_ofMembers?`).** If moreover no text and no contents of `g` were left out, then
what was read is the same as `g`.

The members that are written for fields (`written`) are such members, and so are these in any other
order (`StoredIn`).
-/

namespace SqlTemplate.Template

open Json (Document Members)

variable {positional : Bool} {roles : List (String × Role)}

namespace Fields

/-! ## What has been read -/

/-- Whether there is something under a key, be it that an optional text is absent. -/
def Has (f : Fields) (key : String) : Prop :=
  if key = "contents" then f.contents.isSome else (f.texts.lookup key).isSome

/-- What some fields hold is what others hold. -/
structure Part (f g : Fields) : Prop where
  text : ∀ key text, f.texts.lookup key = some text → g.text? key = text
  contents : ∀ contents, f.contents = some contents → g.contents = some contents

/-- Fields that hold the same. -/
structure Same (f g : Fields) : Prop where
  text : ∀ key, key ≠ "contents" → f.text? key = g.text? key
  contents : f.contents = g.contents

theorem not_has_empty (key : String) : ¬ empty.Has key := by
  simp [Has, empty]

theorem part_empty (g : Fields) : empty.Part g := ⟨nofun, nofun⟩

/-- What is part of some fields and leaves nothing out is the same. -/
theorem Part.same {f g : Fields} (h : f.Part g)
    (htexts : ∀ key, key ≠ "contents" → (g.text? key).isSome → f.Has key)
    (hcontents : f.Has "contents") : f.Same g where
  text key hne := by
    cases hlookup : f.texts.lookup key with
    | some text => rw [h.text key text hlookup, text?, hlookup, Option.join_some]
    | none =>
      have hnone : ¬ (g.text? key).isSome := fun hsome => by
        simpa [Has, hne, hlookup] using htexts key hne hsome
      rw [text?, hlookup, Option.not_isSome_iff_eq_none.1 hnone, Option.join_none]
  contents := by
    obtain ⟨contents, hf⟩ := Option.isSome_iff_exists.1 (by simpa [Has] using hcontents)
    rw [hf, h.contents contents hf]

theorem Same.toCondition?_eq {f g : Fields} (h : f.Same g) : f.toCondition? = g.toCondition? := by
  rw [toCondition?, toCondition?, h.text _ (by decide), h.contents]

theorem Same.toLoop?_eq {f g : Fields} (h : f.Same g) : f.toLoop? = g.toLoop? := by
  rw [toLoop?, toLoop?, h.text _ (by decide), h.text _ (by decide), h.text _ (by decide),
    h.text _ (by decide), h.text _ (by decide), h.text _ (by decide), h.contents]

/-! ## One member -/

/-- Adds what a member tells. -/
def add? (positional : Bool) (roles : List (String × Role)) (f : Fields) (key : String)
    (value : Document) : Option Fields :=
  match roles.lookup key with
  | some .requiredText => f.addRequired? key value
  | some .optionalText => f.addOptional? key value
  | some .contents => do f.addContents? (← ofContents? positional value)
  | none => some f

/-- A member tells what some fields hold under its key. -/
inductive Tells (positional : Bool) (roles : List (String × Role)) (g : Fields) (key : String)
    (value : Document) : Prop
  | required (text : String) (role : roles.lookup key = some .requiredText)
      (read : ofText? value = some text) (holds : g.text? key = some text)
  | optional (text : Option String) (role : roles.lookup key = some .optionalText)
      (read : ofOptionalText? value = some text) (holds : g.text? key = text)
  | contents (contents : List Template) (role : roles.lookup key = some .contents)
      (read : ofContents? positional value = some contents) (holds : g.contents = some contents)

/-- Only the contents have their role. -/
def OnlyContents (roles : List (String × Role)) : Prop :=
  ∀ key, roles.lookup key = some .contents ↔ key = "contents"

theorem OnlyContents.ne_contents (h : OnlyContents roles) {key : String} {role : Role}
    (hrole : roles.lookup key = some role) (hne : role ≠ .contents) : key ≠ "contents" :=
  fun heq => hne (Option.some.inj (hrole.symm.trans ((h key).2 heq)))

/-- Fields with one more text. -/
def withText (f : Fields) (key : String) (text : Option String) : Fields :=
  { f with texts := (key, text) :: f.texts }

section step

variable {f g : Fields} {key : String} {value : Document} {text : Option String}

theorem lookup_withText (k : String) :
    (f.withText key text).texts.lookup k = if k = key then some text else f.texts.lookup k := by
  rw [withText, List.lookup_cons]
  by_cases h : k = key
  · rw [if_pos h, beq_iff_eq.2 h]
  · rw [if_neg h, beq_eq_false_iff_ne.2 h]

theorem has_withText (hne : key ≠ "contents") (k : String) :
    (f.withText key text).Has k ↔ k = key ∨ f.Has k := by
  by_cases hk : k = "contents"
  · simp [Has, hk, hne.symm, withText]
  · simp only [Has, if_neg hk, lookup_withText]
    split_ifs with h <;> simp [h]

theorem Part.withText (h : f.Part g) (htext : g.text? key = text) :
    (f.withText key text).Part g where
  text k t hk := by
    rw [lookup_withText] at hk
    split_ifs at hk with heq
    · rw [heq, htext, Option.some.inj hk]
    · exact h.text k t hk
  contents := h.contents

theorem lookup_eq_none (hne : key ≠ "contents") (hfresh : ¬ f.Has key) :
    f.texts.lookup key = none := by
  rwa [Has, if_neg hne, Option.not_isSome_iff_eq_none] at hfresh

/-- **A member that tells what some fields hold is added**, if there was nothing under its key. -/
theorem Part.add? (h : f.Part g) (honly : OnlyContents roles) (hfresh : ¬ f.Has key)
    (htells : g.Tells positional roles key value) :
    ∃ f', f.add? positional roles key value = some f' ∧ f'.Part g ∧
      ∀ k, f'.Has k ↔ k = key ∨ f.Has k := by
  cases htells with
  | required text role read holds =>
    have hne := honly.ne_contents role nofun
    refine ⟨f.withText key (some text), ?_, h.withText holds, has_withText hne⟩
    simp [Fields.add?, role, addRequired?, lookup_eq_none hne hfresh, read, Fields.withText]
  | optional text role read holds =>
    have hne := honly.ne_contents role nofun
    refine ⟨f.withText key text, ?_, h.withText holds, has_withText hne⟩
    simp [Fields.add?, role, addOptional?, lookup_eq_none hne hfresh, read, Fields.withText]
  | contents contents role read holds =>
    obtain rfl := (honly key).1 role
    have hnone : f.contents.isSome = false := by simpa [Has] using hfresh
    refine ⟨{ f with contents := some contents }, ?_, ⟨h.text, ?_⟩, fun k => ?_⟩
    · simp [Fields.add?, role, read, addContents?, hnone]
    · rintro _ ⟨⟩
      exact holds
    · by_cases hk : k = "contents" <;> simp [Has, hk]

end step

end Fields

/-! ## All members -/

theorem ofMembers?_cons (f : Fields) (key : String) (value : Document) (rest : Members) :
    ofMembers? positional roles f ((some key, value) :: rest) =
      (f.add? positional roles key value).bind (ofMembers? positional roles · rest) := by
  rw [ofMembers?, Fields.add?]
  simp only [Option.bind_eq_bind, Option.bind_some]
  cases roles.lookup key with
  | none => rfl
  | some role => cases role <;> simp only [Option.bind_assoc]

variable {g : Fields} {members : Members}

theorem exists_ofMembers?_of_part {f : Fields} (honly : Fields.OnlyContents roles) (h : f.Part g)
    (hkeys : (members.map Prod.fst).Nodup)
    (hfresh : ∀ key, some key ∈ members.map Prod.fst → ¬ f.Has key)
    (htells : ∀ m ∈ members, ∃ key, m.1 = some key ∧ g.Tells positional roles key m.2) :
    ∃ f', ofMembers? positional roles f members = some f' ∧ f'.Part g ∧
      ∀ key, f'.Has key ↔ some key ∈ members.map Prod.fst ∨ f.Has key := by
  induction members generalizing f with
  | nil => exact ⟨f, by rw [ofMembers?], h, fun key => by simp⟩
  | cons member rest ih =>
    obtain ⟨_, value⟩ := member
    obtain ⟨⟨key, rfl, htells⟩, hrest⟩ := List.forall_mem_cons.1 htells
    obtain ⟨hnew, hkeys⟩ := List.nodup_cons.1 hkeys
    obtain ⟨f₁, hadd, hpart, hhas⟩ := h.add? honly (hfresh key List.mem_cons_self) htells
    -- The keys ahead are still free: none of them is the one just read.
    have hfresh₁ : ∀ k, some k ∈ rest.map Prod.fst → ¬ f₁.Has k := by
      rintro k hk hf₁
      rcases (hhas k).1 hf₁ with rfl | hf
      · exact hnew hk
      · exact hfresh k (List.mem_cons_of_mem _ hk) hf
    obtain ⟨f', hread, hpart', hhas'⟩ := ih hpart hkeys hfresh₁ hrest
    refine ⟨f', ?_, hpart', fun k => ?_⟩
    · rw [ofMembers?_cons, hadd, Option.bind_some, hread]
    · rw [hhas', hhas, List.map_cons, List.mem_cons, Option.some_inj]
      tauto

/-- **Members are read in any order.** If no key comes twice, each member tells what some fields
hold, and no text and no contents are left out, then these fields are read. -/
theorem exists_ofMembers? (honly : Fields.OnlyContents roles)
    (hkeys : (members.map Prod.fst).Nodup)
    (htells : ∀ m ∈ members, ∃ key, m.1 = some key ∧ g.Tells positional roles key m.2)
    (htexts : ∀ key, key ≠ "contents" → (g.text? key).isSome → some key ∈ members.map Prod.fst)
    (hcontents : some "contents" ∈ members.map Prod.fst) :
    ∃ f, ofMembers? positional roles .empty members = some f ∧ f.Same g := by
  obtain ⟨f, hread, hpart, hhas⟩ := exists_ofMembers?_of_part honly (Fields.part_empty g) hkeys
    (fun key _ => Fields.not_has_empty key) htells
  exact ⟨f, hread, hpart.same (fun key hne h => (hhas key).2 (.inl (htexts key hne h)))
    ((hhas _).2 (.inl hcontents))⟩

/-! ## The members of some fields -/

theorem lookup_eq_some_iff_mem {α : Type} {entries : List (String × α)}
    (h : (entries.map Prod.fst).Nodup) {key : String} {value : α} :
    entries.lookup key = some value ↔ (key, value) ∈ entries := by
  induction entries with
  | nil => simp
  | cons entry rest ih =>
    obtain ⟨hnew, hrest⟩ := List.nodup_cons.1 h
    rw [List.lookup_cons, List.mem_cons]
    by_cases hkey : key = entry.1
    · have hnot : (key, value) ∉ rest := fun hmem => hnew (hkey ▸ List.mem_map_of_mem hmem)
      rw [beq_iff_eq.2 hkey, or_iff_left hnot, Option.some_inj, Prod.ext_iff]
      exact ⟨fun hvalue => ⟨hkey, hvalue.symm⟩, fun h => h.2.symm⟩
    · have hne : (key, value) ≠ entry := fun heq => hkey (congrArg Prod.fst heq)
      rw [beq_eq_false_iff_ne.2 hkey, or_iff_right hne, ih hrest]

namespace Fields

/-- Fields whose texts are such by their roles. -/
structure Fits (roles : List (String × Role)) (g : Fields) : Prop where
  only : OnlyContents roles
  keys : (g.texts.map Prod.fst).Nodup
  text : ∀ entry ∈ g.texts, roles.lookup entry.1 = some .optionalText ∨
    roles.lookup entry.1 = some .requiredText

/-- The members as they are written; a text that is absent is left out. -/
def written (g : Fields) (contents : Document) : Members :=
  g.texts.flatMap (fun entry => optionalMember entry.1 entry.2) ++ [(some "contents", contents)]

/-- The members of some fields, in any order. -/
structure StoredIn (positional : Bool) (g : Fields) (members : Members) : Prop where
  keys : (members.map Prod.fst).Nodup
  member : ∀ m ∈ members,
    (∃ key text, (key, some text) ∈ g.texts ∧ m = textMember key text) ∨
      ∃ document contents, m = (some "contents", document) ∧
        ofContents? positional document = some contents ∧ g.contents = some contents
  text : ∀ key text, (key, some text) ∈ g.texts → some key ∈ members.map Prod.fst
  contents : some "contents" ∈ members.map Prod.fst

variable {document : Document} {contents : List Template}

theorem Fits.text?_eq (h : g.Fits roles) {key : String} {text : Option String}
    (hmem : (key, text) ∈ g.texts) : g.text? key = text := by
  rw [text?, (lookup_eq_some_iff_mem h.keys).2 hmem, Option.join_some]

theorem Fits.ne_contents (h : g.Fits roles) {entry : String × Option String}
    (hmem : entry ∈ g.texts) : entry.1 ≠ "contents" :=
  (h.text entry hmem).elim (fun hrole => h.only.ne_contents hrole nofun)
    (fun hrole => h.only.ne_contents hrole nofun)

theorem exists_mem_texts {key : String} (h : (g.text? key).isSome) :
    ∃ text, (key, some text) ∈ g.texts := by
  obtain ⟨text, htext⟩ := Option.isSome_iff_exists.1 h
  obtain ⟨before, after, hsplit, -⟩ := List.lookup_eq_some_iff.1 (Option.join_eq_some_iff.1 htext)
  exact ⟨text, hsplit ▸ List.mem_append_right before List.mem_cons_self⟩

/-- **The members of fitting fields are read**, whatever their order. -/
theorem Fits.exists_ofMembers? (h : g.Fits roles) (hstored : g.StoredIn positional members) :
    ∃ f, ofMembers? positional roles .empty members = some f ∧ f.Same g := by
  refine Template.exists_ofMembers? h.only hstored.keys (fun m hm => ?_)
    (fun key _ hsome => ?_) hstored.contents
  · rcases hstored.member m hm with ⟨key, text, hmem, rfl⟩ | ⟨_, contents, rfl, hread, hholds⟩
    · refine ⟨key, rfl, ?_⟩
      rcases h.text _ hmem with hrole | hrole
      · exact .optional (some text) hrole rfl (h.text?_eq hmem)
      · exact .required text hrole rfl (h.text?_eq hmem)
    · exact ⟨"contents", rfl, .contents contents ((h.only _).2 rfl) hread hholds⟩
  · obtain ⟨text, hmem⟩ := exists_mem_texts hsome
    exact hstored.text key text hmem

theorem mem_written_iff {m : Option String × Document} :
    m ∈ g.written document ↔
      (∃ key text, (key, some text) ∈ g.texts ∧ m = textMember key text) ∨
        m = (some "contents", document) := by
  rw [written, List.mem_append, List.mem_singleton, List.mem_flatMap]
  refine or_congr_left ⟨?_, ?_⟩
  · rintro ⟨⟨key, text⟩, hmem, hm⟩
    obtain ⟨text, rfl, rfl⟩ := Option.map_eq_some_iff.1 (Option.mem_toList.1 hm)
    exact ⟨key, text, hmem, rfl⟩
  · rintro ⟨key, text, hmem, rfl⟩
    exact ⟨(key, some text), hmem, List.mem_singleton_self _⟩

theorem keys_written_sublist (g : Fields) (document : Document) :
    ((g.written document).map Prod.fst).Sublist
      ((g.texts.map Prod.fst ++ ["contents"]).map some) := by
  rw [written, List.map_append, List.map_append]
  refine List.Sublist.append ?_ (List.Sublist.refl _)
  induction g.texts with
  | nil => exact List.Sublist.refl _
  | cons entry rest ih =>
    rw [List.flatMap_cons, List.map_append]
    obtain ⟨key, _ | text⟩ := entry
    · exact ih.cons _
    · exact ih.cons_cons _

theorem Fits.nodup_written (h : g.Fits roles) (document : Document) :
    ((g.written document).map Prod.fst).Nodup := by
  have hnot : "contents" ∉ g.texts.map Prod.fst := fun hmem => by
    obtain ⟨entry, hentry, heq⟩ := List.mem_map.1 hmem
    exact h.ne_contents hentry heq
  refine (keys_written_sublist g document).nodup
    ((List.nodup_map_iff fun _ _ => Option.some.inj).2 ?_)
  exact List.nodup_append_comm.1 (List.nodup_cons.2 ⟨hnot, h.keys⟩)

theorem Fits.storedIn_written (h : g.Fits roles)
    (hread : ofContents? positional document = some contents)
    (hcontents : g.contents = some contents) : g.StoredIn positional (g.written document) where
  keys := h.nodup_written document
  member _ hm :=
    (mem_written_iff.1 hm).imp_right fun heq => ⟨document, contents, heq, hread, hcontents⟩
  text key text hmem := List.mem_map_of_mem (mem_written_iff.2 (.inl ⟨key, text, hmem, rfl⟩))
  contents := List.mem_map_of_mem (mem_written_iff.2 (.inr rfl))

end Fields

end SqlTemplate.Template
