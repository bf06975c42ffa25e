import StringCatalog.Proofs.Resource.EscapedFrame
import StringCatalog.Proofs.Xml.Alike
import StringCatalog.Proofs.Xml.Spelling

/-! # The tags of an escaped text

A backslash before a single quote does no harm to a value in double quotes, but it stands in the way
where a single quote opens a value:

* **`Resource.spellings?_escapeChars`** — the attributes as they are written in an escaped text.
* **`Resource.IsEscapable`** — an attribute that is read as before, as far as names go.
* **`Resource.exists_ofFrames?`** — if all are, the tokens of an escaped text tell the same names.
* **`Resource.ofFrames?_eq_none`** — if one value is in single quotes, there are no tokens. -/

namespace StringCatalog.Resource

open Xml

/-! ## Runs of characters -/

section

variable {stops : Char → Bool} (single : stops '\'' = false) (slash : stops '\\' = false)
include single slash

/-- `(escapeChars text).takeWhile stops = text.takeWhile stops`: the characters up to the first
that stops are as they were, if quotes and backslashes stop. -/
theorem takeWhile_escapeChars (text : List Char) :
    (escapeChars text).takeWhile stops = text.takeWhile stops := by
  induction text with
  | nil => rfl
  | cons c text ih =>
      by_cases quote : c = '\''
      · subst quote
        rw [escapeChars_quote, List.takeWhile_cons_of_neg (by simp [slash]),
          List.takeWhile_cons_of_neg (by simp [single])]
      · rw [escapeChars_cons quote, List.takeWhile_cons, List.takeWhile_cons, ih]

/-- `(escapeChars text).dropWhile stops = escapeChars (text.dropWhile stops)`: and the rest is the
escaped rest. -/
theorem dropWhile_escapeChars (text : List Char) :
    (escapeChars text).dropWhile stops = escapeChars (text.dropWhile stops) := by
  induction text with
  | nil => rfl
  | cons c text ih =>
      by_cases quote : c = '\''
      · subst quote
        rw [List.dropWhile_cons_of_neg (by simp [single]), escapeChars_quote,
          List.dropWhile_cons_of_neg (by simp [slash])]
      · rw [escapeChars_cons quote, List.dropWhile_cons, List.dropWhile_cons, ih]
        split
        · rfl
        · rw [escapeChars_cons quote]

end

/-- `skipBlanks (escapeChars text) = escapeChars (skipBlanks text)`. -/
theorem skipBlanks_escapeChars (text : List Char) :
    skipBlanks (escapeChars text) = escapeChars (skipBlanks text) :=
  dropWhile_escapeChars (by decide) (by decide) text

/-- `skipEquals? (escapeChars text) = some (escapeChars value)`: an equals sign is found in front
of the escaped value. -/
theorem skipEquals?_escapeChars {text value : List Char} (h : skipEquals? text = some value) :
    skipEquals? (escapeChars text) = some (escapeChars value) := by
  unfold skipEquals? at h
  split at h
  · next rest there =>
    cases h
    rw [skipEquals?, skipBlanks_escapeChars, there, escapeChars_cons (by decide)]
    exact congrArg some (skipBlanks_escapeChars rest)
  · cases h

/-- A text is cut at a plain character where it was cut before. -/
theorem cutAt?_escapeChars {c : Char} (plain : IsPlainChar c) {text before after : List Char}
    (h : Text.cutAt? c text = some (before, after)) :
    Text.cutAt? c (escapeChars text) = some (escapeChars before, escapeChars after) := by
  obtain ⟨rfl, new⟩ := Text.cutAt?_eq_some h
  have still : c ∉ escapeChars before := fun member =>
    (of_mem_escapeChars member).elim plain.2 new
  rw [escapeChars_append, escapeChars_cons plain.1, Text.cutAt?_append still]

/-! ## Attributes as they are written -/

/-- **An attribute with its quotes escaped.** -/
def escapeSpelling (entry : Spelling) : Spelling := { entry with raw := escapeChars entry.raw }

/-- An attribute is read with its quotes escaped, or not at all if its value is in single quotes. -/
theorem read?_escapeChars {text after : List Char} {entry : Spelling}
    (h : Spelling.read? text = some (entry, after)) :
    Spelling.read? (escapeChars text) =
      if entry.quote = '\'' then none else some (escapeSpelling entry, escapeChars after) := by
  obtain ⟨c, more, value, there, start, equals, quoted, same⟩ := Spelling.exists_of_read? h
  have other : c ≠ '\'' := ne_of_isNameChar (isNameChar_of_isNameStart start) (by decide)
  have begins : skipBlanks (escapeChars text) = c :: escapeChars more := by
    rw [skipBlanks_escapeChars, there, escapeChars_cons other]
  rw [Spelling.read?_eq begins start, ← escapeChars_cons other,
    dropWhile_escapeChars (by decide) (by decide), takeWhile_escapeChars (by decide) (by decide),
    skipEquals?_escapeChars equals, Option.bind_some, same]
  -- the quote that opens the value either stays or has a backslash before it
  unfold readQuoted? at quoted
  split at quoted
  · rw [escapeChars_cons (by decide), readQuoted?, cutAt?_escapeChars (by decide) quoted]
    rfl
  · rw [escapeChars_quote]
    rfl
  · cases quoted

/-- **The attributes as they are written in an escaped text** are those of the text with their
quotes escaped. There are none if a value is in single quotes. -/
theorem spellings?_escapeChars {text : List Char} {entries : List Spelling}
    (h : spellings? text = some entries) :
    spellings? (escapeChars text) =
      if entries.any (·.quote == '\'') then none else some (entries.map escapeSpelling) := by
  fun_induction spellings? text generalizing entries with
  | case1 =>
      cases h
      exact spellings?_nil
  | case2 => cases h
  | case3 c rest blank empty =>
      cases h
      have blank : isBlank c := by simpa using blank
      have other : c ≠ '\'' := by
        rintro rfl
        exact absurd blank (by decide)
      have none : skipBlanks (escapeChars rest) = [] := by
        rw [skipBlanks_escapeChars, List.isEmpty_iff.1 empty]
        rfl
      rw [escapeChars_cons other, spellings?_blanks blank none]
      rfl
  | case4 => cases h
  | case5 c rest blank some entry after read ih =>
      obtain ⟨others, found, rfl⟩ := Option.map_eq_some_iff.1 h
      have blank : isBlank c := by simpa using blank
      have other : c ≠ '\'' := by
        rintro rfl
        exact absurd blank (by decide)
      have again := read?_escapeChars read
      rw [escapeChars_cons other]
      by_cases single : entry.quote = '\''
      · rw [if_pos single] at again
        have there : skipBlanks (escapeChars rest) ≠ [] := by
          rw [skipBlanks_escapeChars, Ne, escapeChars_eq_nil]
          simpa using some
        rw [spellings?_eq_none there again, if_pos (by simp [single])]
      · rw [if_neg single] at again
        rw [spellings?_cons blank again, ih found, List.any_cons, beq_false_of_ne single,
          Bool.false_or]
        split <;> rfl

/-! ## Values -/

/-- `'\'' ∉ digits`: what is read as a number has no quote in it. -/
theorem quote_notMem_of_readNumber? {base number : Nat} {digits : List Char}
    (h : readNumber? base digits = some number) : '\'' ∉ digits := by
  induction digits using List.reverseRecOn generalizing number with
  | nil => simp
  | append_singleton digits c ih =>
      rw [readNumber?, List.foldl_concat, ← readNumber?] at h
      intro member
      rcases List.mem_append.1 member with member | last
      · cases before : readNumber? base digits with
        | none => simp [before] at h
        | some value => exact ih before member
      · obtain rfl := List.mem_singleton.1 last
        rw [show Text.hexValue? '\'' = none by decide] at h
        split at h
        · next missing => cases missing
        · cases h

/-- `'\'' ∉ inner`: there is no quote in what a reference is read from. -/
theorem quote_notMem_of_readReference? {inner : List Char} {piece : Piece}
    (h : readReference? inner = some piece) : '\'' ∉ inner := by
  unfold readReference? at h
  split at h
  · next digits =>
    obtain ⟨c, read, -⟩ := Option.map_eq_some_iff.1 h
    obtain ⟨number, read, -⟩ := Option.bind_eq_some_iff.1 read
    simpa using quote_notMem_of_readNumber? read
  · next digits _ =>
    obtain ⟨c, read, -⟩ := Option.map_eq_some_iff.1 h
    obtain ⟨number, read, -⟩ := Option.bind_eq_some_iff.1 read
    simpa using quote_notMem_of_readNumber? read
  · split at h
    · next found =>
      have word {name : String} (same : String.ofList inner = name) : inner = name.toList := by
        rw [← same, String.toList_ofList]
      unfold predefined? at found
      split at found
      iterate 5 next same => rw [word same]; decide
      cases found
    · split at h
      · next name => exact fun member => ne_of_isNameChar (isNameChar_of_mem name member) (by decide) rfl
      · cases h

/-- **A value is read with its quotes escaped.** -/
theorem exists_readPieces?_escapeChars {plain : Char → Char} (single : plain '\'' = '\'')
    (slash : plain '\\' = '\\') {raw : List Char} {pieces : List Piece}
    (h : readPieces? plain raw = some pieces) :
    ∃ others, readPieces? plain (escapeChars raw) = some others ∧ AreAlike pieces others := by
  fun_induction readPieces? plain raw generalizing pieces with
  | case1 =>
      cases h
      exact ⟨[], readPieces?_nil plain, .refl []⟩
  | case2 => cases h
  | case3 => cases h
  | case4 c rest isReference inner after cut shorter piece read ih =>
      obtain ⟨more, found, rfl⟩ := Option.map_eq_some_iff.1 h
      obtain ⟨others, again, alike⟩ := ih found
      obtain rfl : c = '&' := by simpa using isReference
      have cut := cutAt?_escapeChars (by decide) cut
      rw [escapeChars_plain (quote_notMem_of_readReference? read)] at cut
      rw [escapeChars_cons (by decide), readPieces?_reference cut read, again]
      exact ⟨_, rfl, alike.cons piece⟩
  | case5 c rest isPlain ih =>
      obtain ⟨more, found, rfl⟩ := Option.map_eq_some_iff.1 h
      obtain ⟨others, again, alike⟩ := ih found
      by_cases quote : c = '\''
      · subst quote
        rw [escapeChars_quote, readPieces?_cons (by decide), readPieces?_cons (by decide), again,
          single, slash]
        exact ⟨_, rfl, alike.quote⟩
      · rw [escapeChars_cons quote, readPieces?_cons (by simpa using isPlain), again]
        exact ⟨_, rfl, alike.cons _⟩

/-! ## Start tags -/

/-- **An attribute that is read as before with its quotes escaped,** as far as names go: its value is
in double quotes, and no single quote is in it if it declares a namespace. -/
structure IsEscapable (entry : Spelling) : Prop where
  /-- The quote on both sides of the value. -/
  quote : entry.quote ≠ '\''
  /-- A namespace. -/
  declared : entry.name.declaredLead?.isSome → '\'' ∉ entry.raw

instance : DecidablePred IsEscapable := fun entry =>
  decidable_of_iff
    (entry.quote ≠ '\'' ∧ (entry.name.declaredLead?.isSome → '\'' ∉ entry.raw))
    ⟨fun h => ⟨h.1, h.2⟩, fun h => ⟨h.quote, h.declared⟩⟩

/-- An escapable attribute is read, and what it says is alike. -/
theorem exists_attribute? {entry : Spelling} (h : IsEscapable entry) {said : Tag.Attribute}
    (read : entry.attribute? = some said) :
    ∃ other, (escapeSpelling entry).attribute? = some other ∧ said.Alike other := by
  unfold Spelling.attribute? at read
  split at read
  · cases read
  · next inside =>
    obtain ⟨pieces, found, rfl⟩ := Option.map_eq_some_iff.1 read
    obtain ⟨others, again, alike⟩ := exists_readPieces?_escapeChars (by decide) (by decide) found
    have still : (escapeSpelling entry).raw.contains '<' = false := by
      rw [List.contains_eq_mem, decide_eq_false_iff_not]
      exact fun member => (of_mem_escapeChars member).elim (by decide) (by simpa using inside)
    refine ⟨⟨entry.name, others⟩, ?_, rfl, alike, fun declared => ?_⟩
    · rw [Spelling.attribute?, still, if_neg (by simp), escapeSpelling, again]
      rfl
    · rw [escapeChars_plain (h.declared declared), found] at again
      exact (Option.some.inj again).symm

/-- So are all attributes of a tag. -/
theorem exists_attributesOf? {entries : List Spelling} (h : ∀ entry ∈ entries, IsEscapable entry)
    {said : List Tag.Attribute} (read : attributesOf? entries = some said) :
    ∃ others, attributesOf? (entries.map escapeSpelling) = some others ∧
      List.Forall₂ Tag.Attribute.Alike said others := by
  induction entries generalizing said with
  | nil =>
      cases read
      exact ⟨[], rfl, .nil⟩
  | cons entry entries ih =>
      rw [List.forall_mem_cons] at h
      rw [attributesOf?] at read
      split at read
      · cases read
      · next first one =>
        obtain ⟨more, all, rfl⟩ := Option.map_eq_some_iff.1 read
        obtain ⟨other, same, alike⟩ := exists_attribute? h.1 one
        obtain ⟨others, again, allAlike⟩ := ih h.2 all
        rw [List.map_cons, attributesOf?, same]
        exact ⟨other :: others, by rw [again]; rfl, .cons alike allAlike⟩

/-- `Name.read?` reads the same name in front of the escaped rest. -/
theorem nameRead?_escapeChars {raw rest : List Char} {name : Name}
    (h : Name.read? raw = some (name, rest)) :
    Name.read? (escapeChars raw) = some (name, escapeChars rest) := by
  unfold Name.read? at h
  split at h
  · cases h
  · next c more =>
    split at h
    · next start =>
      cases h
      have other : c ≠ '\'' := ne_of_isNameChar (isNameChar_of_isNameStart start) (by decide)
      have taken := @takeWhile_escapeChars isNameChar (by decide) (by decide) (c :: more)
      have dropped := @dropWhile_escapeChars isNameChar (by decide) (by decide) (c :: more)
      rw [escapeChars_cons other] at taken dropped ⊢
      rw [Name.read?, if_pos start, taken, dropped]
    · cases h

/-- `(escapeChars raw).getLast? = raw.getLast?`: the backslash stands in front of the quote. -/
theorem getLast?_escapeChars (raw : List Char) : (escapeChars raw).getLast? = raw.getLast? := by
  rcases raw.eq_nil_or_concat with rfl | ⟨front, last, rfl⟩
  · rfl
  · by_cases quote : last = '\''
    · subst quote
      rw [List.concat_eq_append, escapeChars_append, escapeChars_quote]
      simp [escapeChars]
    · rw [List.concat_eq_append, escapeChars_concat quote, List.getLast?_concat,
        List.getLast?_concat]

/-- `withoutSlash (escapeChars raw) = escapeChars (withoutSlash raw)`. -/
theorem withoutSlash_escapeChars (raw : List Char) :
    withoutSlash (escapeChars raw) = escapeChars (withoutSlash raw) := by
  rw [withoutSlash, withoutSlash, getLast?_escapeChars]
  split
  · next slash =>
    obtain ⟨front, rfl⟩ := List.getLast?_eq_some_iff.1 (by simpa using slash)
    rw [escapeChars_concat (by decide), List.dropLast_concat, List.dropLast_concat]
  · rfl

section

variable {raw : List Char}

/-- **A start tag tells the same names with its quotes escaped.** -/
theorem exists_tagRead? {tag : Tag} (h : Tag.read? raw = some tag)
    (escapable : ∀ rest entries, Name.read? raw = some (tag.name, rest) →
      spellings? rest = some entries → ∀ entry ∈ entries, IsEscapable entry) :
    ∃ other, Tag.read? (escapeChars raw) = some other ∧ tag.Alike other := by
  obtain ⟨rest, entries, named, spelled, said⟩ := Tag.exists_of_read? h
  have good := escapable rest entries named spelled
  have double : entries.any (·.quote == '\'') = false := by
    simpa using fun entry member => (good entry member).quote
  have again := spellings?_escapeChars spelled
  rw [if_neg (by simp [double])] at again
  obtain ⟨others, read, alike⟩ := exists_attributesOf? good said
  refine ⟨⟨tag.name, others⟩, ?_, rfl, alike⟩
  rw [Tag.read?_eq, nameRead?_escapeChars named, Option.bind_some, again, Option.bind_some, read,
    Option.map_some]

/-- **Where a single quote opens a value, there is no start tag with its quotes escaped:**
`Tag.read? (escapeChars raw) = none`. -/
theorem tagRead?_eq_none {name : Name} {rest : List Char} {entries : List Spelling}
    (named : Name.read? raw = some (name, rest)) (spelled : spellings? rest = some entries)
    (single : ∃ entry ∈ entries, entry.quote = '\'') : Tag.read? (escapeChars raw) = none := by
  have again := spellings?_escapeChars spelled
  rw [if_pos (by simpa using single)] at again
  rw [Tag.read?_eq, nameRead?_escapeChars named, Option.bind_some, again, Option.bind_none,
    Option.map_none]

end

/-! ## Tokens -/

/-- An instruction is read with its data escaped. -/
theorem exists_readInstruction? {raw : List Char} {token : Token}
    (h : readInstruction? raw = some token) :
    ∃ other, readInstruction? (escapeChars raw) = some other ∧ token.Alike other := by
  have taken := @takeWhile_escapeChars isNameChar (by decide) (by decide) raw
  have dropped := @dropWhile_escapeChars isNameChar (by decide) (by decide) raw
  simp only [readInstruction?, taken, dropped] at h ⊢
  split at h
  · cases h
  · next known =>
    rw [if_neg known]
    cases behind : raw.dropWhile isNameChar with
    | nil =>
        rw [behind] at h
        cases h
        exact ⟨_, rfl, .instruction _ _ _⟩
    | cons c rest =>
        rw [behind] at h
        dsimp only at h
        split at h
        · next blank =>
          cases h
          have other : c ≠ '\'' := by
            rintro rfl
            exact absurd blank (by decide)
          rw [escapeChars_cons other]
          dsimp only
          rw [if_pos blank]
          exact ⟨_, rfl, .instruction _ _ _⟩
        · cases h

/-- `'\'' ∉ raw`: an end tag has no quotes in it. -/
theorem quote_notMem_of_readFinish? {raw : List Char} {token : Token}
    (h : readFinish? raw = some token) : '\'' ∉ raw := by
  simp only [readFinish?, Option.ite_none_right_eq_some, Bool.and_eq_true, List.all_eq_true] at h
  obtain ⟨⟨name, blanks⟩, -⟩ := h
  rw [← @List.takeWhile_append_dropWhile _ isNameChar raw, List.mem_append, not_or]
  exact ⟨fun member => ne_of_isNameChar (isNameChar_of_mem name member) (by decide) rfl,
    fun member => absurd (blanks _ member) (by decide)⟩

/-- A comment stays one: no hyphen comes in. -/
theorem isCommentText_escapeChars {raw : List Char} (h : isCommentText raw) :
    isCommentText (escapeChars raw) := by
  rw [isCommentText_iff] at h ⊢
  rw [← escapeChars_concat (by decide)]
  exact fun part => h (infix_of_infix_escaped (by decide) (by simp) part)

/-- `Token.ofFrame? line (.tag raw) = readStart? line raw`: a tag without a slash in front is read
as a start tag. -/
theorem ofFrame?_start {line : Nat} {raw : List Char} (h : raw.head? ≠ some '/') :
    Token.ofFrame? line (.tag raw) = readStart? line raw := by
  cases raw with
  | nil => rfl
  | cons c raw =>
      rw [Token.ofFrame?]
      simpa using h

/-- `(escapeChars raw).head? ≠ some '/'`: escaping puts no slash in front. -/
theorem head?_escapeChars_ne {raw : List Char} (h : raw.head? ≠ some '/') :
    (escapeChars raw).head? ≠ some '/' := by
  cases raw with
  | nil => simp
  | cons c raw =>
      by_cases quote : c = '\''
      · subst quote
        simp [escapeChars_quote]
      · rw [escapeChars_cons quote]
        exact h

section

variable {line : Nat} {frame : Frame}

/-- **A frame says a token that tells the same names with its quotes escaped,** if its attributes
can be read as before. -/
theorem exists_ofFrame? {token : Token} (h : Token.ofFrame? line frame = some token)
    (escapable : ∀ entry ∈ frame.spellings, IsEscapable entry) :
    ∃ other, Token.ofFrame? line (escapeFrame frame) = some other ∧ token.Alike other := by
  cases frame with
  | text raw =>
      rw [Token.ofFrame?] at h
      split at h
      · cases h
      · next inside =>
        obtain ⟨pieces, read, rfl⟩ := Option.map_eq_some_iff.1 h
        obtain ⟨others, again, alike⟩ := exists_readPieces?_escapeChars (by decide) (by decide) read
        have still : ¬Text.contains [']', ']', '>'] (escapeChars raw) = true := by
          rw [Text.contains_iff] at inside ⊢
          exact fun part => inside (infix_of_infix_escaped (by decide) (by simp) part)
        rw [escapeFrame, Token.ofFrame?, if_neg still, again]
        exact ⟨_, rfl, .text alike⟩
  | literal raw =>
      cases h
      exact ⟨_, rfl, .literal _ _⟩
  | comment raw =>
      rw [Token.ofFrame?] at h
      split at h
      · next inside =>
        cases h
        rw [escapeFrame, Token.ofFrame?, if_pos (isCommentText_escapeChars inside)]
        exact ⟨_, rfl, .comment _ _⟩
      · cases h
  | instruction raw => exact exists_readInstruction? h
  | tag raw =>
      by_cases slash : raw.head? = some '/'
      · obtain ⟨raw, rfl⟩ := List.head?_eq_some_iff.1 slash
        have known : readFinish? raw = some token := h
        have same : escapeFrame (.tag ('/' :: raw)) = .tag ('/' :: raw) := by
          rw [escapeFrame, escapeChars_cons (by decide),
            escapeChars_plain (quote_notMem_of_readFinish? known)]
        rw [same, h]
        simp only [readFinish?, Option.ite_none_right_eq_some, Option.some.injEq] at known
        exact ⟨_, rfl, known.2 ▸ .finish _⟩
      · rw [ofFrame?_start slash, readStart?_eq] at h
        obtain ⟨tag, read, rfl⟩ := Option.map_eq_some_iff.1 h
        obtain ⟨other, again, alike⟩ := exists_tagRead? read fun rest entries named spelled => by
          rw [Frame.spellings, named, Option.bind_some, spelled] at escapable
          exact escapable
        rw [escapeFrame, ofFrame?_start (head?_escapeChars_ne slash), readStart?_eq,
          withoutSlash_escapeChars, getLast?_escapeChars, again]
        exact ⟨_, rfl, .start _ _ alike⟩

/-- **A frame in which a single quote opens a value says nothing with its quotes escaped:**
`Token.ofFrame? line (escapeFrame frame) = none`. -/
theorem ofFrame?_eq_none (single : ∃ entry ∈ frame.spellings, entry.quote = '\'') :
    Token.ofFrame? line (escapeFrame frame) = none := by
  obtain ⟨entry, member, quote⟩ := single
  obtain ⟨raw, name, rest, entries, rfl, named, spelled, among⟩ :=
    Frame.exists_of_mem_spellings member
  have missing := tagRead?_eq_none named spelled ⟨entry, among, quote⟩
  have start : raw.head? ≠ some '/' := by
    intro slash
    obtain ⟨raw, rfl⟩ := List.head?_eq_some_iff.1 slash
    rw [nameRead?_slash] at named
    cases named
  rw [escapeFrame, ofFrame?_start (head?_escapeChars_ne start), readStart?_eq,
    withoutSlash_escapeChars, missing, Option.map_none]

end

/-! ## Tokens of many frames -/

/-- `(escapeFrame frame).source.count '\n' = frame.source.count '\n'`: escaping adds no line
ends. -/
theorem count_source_escapeFrame (frame : Frame) :
    (escapeFrame frame).source.count '\n' = frame.source.count '\n' := by
  rw [source_escapeFrame, count_escapeChars]

/-- **The tokens of an escaped text tell the same names,** if all its attributes can be read as
before. -/
theorem exists_ofFrames? {line : Nat} {frames : List Frame} {tokens : List Token}
    (h : Token.ofFrames? line frames = some tokens)
    (escapable : ∀ frame ∈ frames, ∀ entry ∈ frame.spellings, IsEscapable entry) :
    ∃ others, Token.ofFrames? line (frames.map escapeFrame) = some others ∧
      List.Forall₂ Token.Alike tokens others := by
  induction frames generalizing line tokens with
  | nil =>
      cases h
      exact ⟨[], rfl, .nil⟩
  | cons frame frames ih =>
      rw [List.forall_mem_cons] at escapable
      rw [Token.ofFrames?] at h
      split at h
      · cases h
      · next token one =>
        obtain ⟨more, all, rfl⟩ := Option.map_eq_some_iff.1 h
        obtain ⟨other, same, alike⟩ := exists_ofFrame? one escapable.1
        obtain ⟨others, again, allAlike⟩ := ih all escapable.2
        rw [List.map_cons, Token.ofFrames?, count_source_escapeFrame, same]
        exact ⟨other :: others, by rw [again]; rfl, .cons alike allAlike⟩

/-- **There are no tokens of an escaped text in which a single quote opens a value:**
`Token.ofFrames? line (frames.map escapeFrame) = none`. -/
theorem ofFrames?_eq_none {line : Nat} {frames : List Frame}
    (single : ∃ frame ∈ frames, ∃ entry ∈ frame.spellings, entry.quote = '\'') :
    Token.ofFrames? line (frames.map escapeFrame) = none := by
  induction frames generalizing line with
  | nil => simp at single
  | cons frame frames ih =>
      rw [List.map_cons, Token.ofFrames?]
      rcases (List.exists_mem_cons_iff _ _ _).1 single with here | later
      · rw [ofFrame?_eq_none here]
      · rw [ih later]
        split <;> rfl

end StringCatalog.Resource
