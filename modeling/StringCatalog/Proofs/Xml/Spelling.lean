import StringCatalog.Proofs.Xml.Parsed

/-! # Attributes as they are written

The reader of start tags forgets in which quotes a value stands, and which of its characters are
written as references:

* **`Xml.Spelling`** — an attribute as it is written.
* **`Xml.spellings?`** — the attributes as they are written in a tag.
* **`Xml.readAttributes?_eq`** — what is read is what they say.
* **`Xml.spellingsIn`** — the attributes as they are written in a text. -/

namespace StringCatalog.Xml

/-- **An attribute as it is written.** -/
structure Spelling where
  /-- The name. -/
  name : Name
  /-- The quote on both sides of the value. -/
  quote : Char
  /-- What stands between the quotes. -/
  raw : List Char
  deriving DecidableEq, Repr

/-- The attribute that a text begins with, and the text behind it. Blanks may come first. -/
def Spelling.read? (text : List Char) : Option (Spelling × List Char) :=
  match skipBlanks text with
  | [] => none
  | c :: rest =>
      if !isNameStart c then none
      else
        match skipEquals? ((c :: rest).dropWhile isNameChar) with
        | none => none
        | some value =>
            (readQuoted? value).map fun (raw, after) =>
              (⟨Name.ofText ((c :: rest).takeWhile isNameChar), value.headD '"', raw⟩, after)

/-- What has been found where an attribute is read. -/
theorem Spelling.exists_of_read? {text after : List Char} {entry : Spelling}
    (h : Spelling.read? text = some (entry, after)) :
    ∃ c more value, skipBlanks text = c :: more ∧ isNameStart c ∧
      skipEquals? ((c :: more).dropWhile isNameChar) = some value ∧
        readQuoted? value = some (entry.raw, after) ∧
          entry = ⟨Name.ofText ((c :: more).takeWhile isNameChar), value.headD '"', entry.raw⟩ := by
  unfold Spelling.read? at h
  split at h
  · cases h
  · next c more there =>
    split at h
    · cases h
    · next start =>
      split at h
      · cases h
      · next value equals =>
        obtain ⟨⟨raw, behind⟩, quoted, same⟩ := Option.map_eq_some_iff.1 h
        cases same
        exact ⟨c, more, value, there, by simpa using start, equals, quoted, rfl⟩

/-- `after.length < text.length`: reading an attribute takes at least one character. -/
theorem Spelling.length_read? {text after : List Char} {entry : Spelling}
    (h : Spelling.read? text = some (entry, after)) : after.length < text.length := by
  obtain ⟨c, more, value, there, -, equals, quoted, -⟩ := Spelling.exists_of_read? h
  have first := length_skipBlanks text
  have second := (List.dropWhile_sublist isNameChar (l := c :: more)).length_le
  rw [there] at first
  exact (length_readQuoted? quoted).trans_le
    ((length_skipEquals? equals).trans (second.trans first))

/-- **The attributes as they are written,** where a text consists of attributes. -/
def spellings? (text : List Char) : Option (List Spelling) :=
  match text with
  | [] => some []
  | c :: rest =>
      if !isBlank c then none
      else if (skipBlanks rest).isEmpty then some []
      else
        match _ : Spelling.read? rest with
        | none => none
        | some (entry, after) =>
            (spellings? after).map (entry :: ·)
termination_by text.length
decreasing_by exact Nat.lt_succ_of_lt (Spelling.length_read? ‹_›)

/-- What an attribute says. -/
def Spelling.attribute? (entry : Spelling) : Option Tag.Attribute :=
  if entry.raw.contains '<' then none
  else (readPieces? plainValueChar entry.raw).map (⟨entry.name, ·⟩)

/-- What attributes say. -/
def attributesOf? : List Spelling → Option (List Tag.Attribute)
  | [] => some []
  | entry :: rest =>
      match entry.attribute? with
      | none => none
      | some said => (attributesOf? rest).map (said :: ·)

/-! ## What is read -/

/-- `spellings? [] = some []`. -/
theorem spellings?_nil : spellings? [] = some [] := by rw [spellings?]

/-- `spellings? (c :: rest) = some []`: blanks alone hold no attributes. -/
theorem spellings?_blanks {c : Char} {rest : List Char} (blank : isBlank c)
    (none : skipBlanks rest = []) : spellings? (c :: rest) = some [] := by
  rw [spellings?, if_neg (by simp [blank]), if_pos (by simp [none])]

/-- `spellings? (c :: rest) = (spellings? after).map (entry :: ·)`: one attribute is read, and then
the others. -/
theorem spellings?_cons {c : Char} {rest after : List Char} {entry : Spelling} (blank : isBlank c)
    (read : Spelling.read? rest = some (entry, after)) :
    spellings? (c :: rest) = (spellings? after).map (entry :: ·) := by
  have there : skipBlanks rest ≠ [] := by
    intro empty
    rw [Spelling.read?, empty] at read
    cases read
  rw [spellings?, if_neg (by simp [blank]), if_neg (by simpa using there)]
  split
  · next missing => simp [read] at missing
  · next found =>
    obtain ⟨rfl, rfl⟩ : _ = entry ∧ _ = after := by simpa [found] using read
    rfl

/-- `spellings? (c :: rest) = none`: where no attribute can be read, nothing is. -/
theorem spellings?_eq_none {c : Char} {rest : List Char} (there : skipBlanks rest ≠ [])
    (missing : Spelling.read? rest = none) : spellings? (c :: rest) = none := by
  rw [spellings?]
  split
  · rfl
  · rw [if_neg (by simpa using there)]
    split
    · rfl
    · next found => simp [missing] at found

/-- `Spelling.read?` step by step: the name, the equals sign and the quoted value. -/
theorem Spelling.read?_eq {text more : List Char} {c : Char} (there : skipBlanks text = c :: more)
    (start : isNameStart c) :
    Spelling.read? text = (skipEquals? ((c :: more).dropWhile isNameChar)).bind fun value =>
      (readQuoted? value).map fun found =>
        (⟨Name.ofText ((c :: more).takeWhile isNameChar), value.headD '"', found.1⟩, found.2) := by
  rw [Spelling.read?, there]
  dsimp only
  rw [if_neg (by simp [start])]
  cases skipEquals? ((c :: more).dropWhile isNameChar) <;> rfl

/-- **What is read from a tag is what its attributes say:**
`readAttributes? text = (spellings? text).bind attributesOf?`. -/
theorem readAttributes?_eq (text : List Char) :
    readAttributes? text = (spellings? text).bind attributesOf? := by
  fun_induction readAttributes? text with
  | case1 => rw [spellings?_nil]; rfl
  | case2 c rest other => rw [spellings?, if_pos other]; rfl
  | case3 c rest blank none => rw [spellings?_blanks (by simpa using blank) none]; rfl
  -- no attribute can be read
  | case4 c rest blank d more there other =>
      have missing : Spelling.read? rest = none := by
        rw [Spelling.read?, there]
        exact if_pos other
      rw [spellings?_eq_none (by simp [there]) missing]
      rfl
  | case5 c rest blank d more there start missing =>
      have missing : Spelling.read? rest = none := by
        rw [Spelling.read?_eq there (by simpa using start), missing, Option.bind_none]
      rw [spellings?_eq_none (by simp [there]) missing]
      rfl
  | case6 c rest blank d more there start value equals missing =>
      have missing : Spelling.read? rest = none := by
        rw [Spelling.read?_eq there (by simpa using start), equals, Option.bind_some, missing,
          Option.map_none]
      rw [spellings?_eq_none (by simp [there]) missing]
      rfl
  -- an attribute is read, which says something or nothing
  | case7 c rest blank d more there start value equals raw after quoted shorter inside =>
      have one := Spelling.read?_eq there (by simpa using start)
      rw [equals, Option.bind_some, quoted, Option.map_some] at one
      rw [spellings?_cons (by simpa using blank) one]
      cases spellings? after with
      | none => rfl
      | some others =>
          simp only [Option.map_some, Option.bind_some, attributesOf?, Spelling.attribute?, inside,
            if_true]
  | case8 c rest blank d more there start value equals raw after quoted shorter inside missing =>
      have one := Spelling.read?_eq there (by simpa using start)
      rw [equals, Option.bind_some, quoted, Option.map_some] at one
      rw [spellings?_cons (by simpa using blank) one]
      cases spellings? after with
      | none => rfl
      | some others =>
          simp only [Option.map_some, Option.bind_some, attributesOf?, Spelling.attribute?, inside,
            Bool.false_eq_true, if_false, missing, Option.map_none]
  | case9 c rest blank d more there start name value equals raw after quoted shorter inside pieces
      read ih =>
      have one := Spelling.read?_eq there (by simpa using start)
      rw [equals, Option.bind_some, quoted, Option.map_some] at one
      rw [spellings?_cons (by simpa using blank) one, ih]
      cases spellings? after with
      | none => rfl
      | some others =>
          simp only [Option.map_some, Option.bind_some, attributesOf?, Spelling.attribute?, inside,
            Bool.false_eq_true, if_false, read, name]

/-! ## Tags and texts -/

/-- A tag without the slash that closes it. -/
def withoutSlash (raw : List Char) : List Char :=
  if raw.getLast? == some '/' then raw.dropLast else raw

/-- **The attributes as they are written in a frame.** Only start tags have any. -/
def Frame.spellings : Frame → List Spelling
  | .tag raw => ((Name.read? (withoutSlash raw)).bind fun named => spellings? named.2).getD []
  | _ => []

/-- **The attributes as they are written in a text.** -/
def spellingsIn (text : List Char) : List Spelling :=
  ((Frame.split? (joinLineEnds text)).getD []).flatMap Frame.spellings

/-- `readStart? line raw` reads the tag without the slash at its end. -/
theorem readStart?_eq (line : Nat) (raw : List Char) :
    readStart? line raw = (Tag.read? (withoutSlash raw)).map
      (Token.start · (raw.getLast? == some '/') line) := by
  unfold readStart? withoutSlash
  split
  · next slash => simp [slash]
  · next other => simp [other]

/-- What is read from a start tag is what its attributes say. -/
theorem Tag.read?_eq (raw : List Char) :
    Tag.read? raw = (Name.read? raw).bind fun named =>
      ((spellings? named.2).bind attributesOf?).map (⟨named.1, ·⟩) := by
  unfold Tag.read?
  split
  · next missing => rw [missing, Option.bind_none]
  · next found => rw [found, Option.bind_some, readAttributes?_eq]

/-- The attributes of a tag as they are written behind its name, and what they say. -/
theorem Tag.exists_of_read? {raw : List Char} {tag : Tag} (h : Tag.read? raw = some tag) :
    ∃ rest entries, Name.read? raw = some (tag.name, rest) ∧ spellings? rest = some entries ∧
      attributesOf? entries = some tag.attributes := by
  rw [Tag.read?_eq] at h
  obtain ⟨⟨name, rest⟩, named, read⟩ := Option.bind_eq_some_iff.1 h
  dsimp only at read
  obtain ⟨said, behind, rfl⟩ := Option.map_eq_some_iff.1 read
  obtain ⟨entries, spelled, all⟩ := Option.bind_eq_some_iff.1 behind
  exact ⟨rest, entries, named, spelled, all⟩

/-- `Name.read? (withoutSlash ('/' :: raw)) = none`: an end tag has no name that begins it. -/
theorem nameRead?_slash (raw : List Char) : Name.read? (withoutSlash ('/' :: raw)) = none := by
  unfold withoutSlash
  split
  · cases raw <;> rfl
  · rfl

/-- Where there are attributes in a frame, they stand behind the name of a start tag. -/
theorem Frame.exists_of_mem_spellings {frame : Frame} {entry : Spelling}
    (h : entry ∈ frame.spellings) :
    ∃ raw name rest entries, frame = .tag raw ∧ Name.read? (withoutSlash raw) = some (name, rest) ∧
      spellings? rest = some entries ∧ entry ∈ entries := by
  cases frame with
  | tag raw =>
      rw [Frame.spellings] at h
      cases found : (Name.read? (withoutSlash raw)).bind fun named => spellings? named.2 with
      | none =>
          rw [found] at h
          cases h
      | some entries =>
          rw [found] at h
          obtain ⟨⟨name, rest⟩, named, spelled⟩ := Option.bind_eq_some_iff.1 found
          exact ⟨raw, name, rest, entries, rfl, named, spelled, h⟩
  | _ => cases h

end StringCatalog.Xml
