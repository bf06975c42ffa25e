import StringCatalog.Proofs.Catalog.Reread

/-! # Catalogs can be read

A catalog that has been written is read again, however many forms its strings have and whatever is
lost in them, as long as its lines are the lines that have been written:

* **`Catalog.readContent_singulars`** — one string comes back for each that was written, in its place
  and with its text.
* **`Catalog.readContent_separator`** — a text with a line separator in it. Only line feeds, tabs,
  carriage returns, quotes and backslashes are escaped, while lines are read up to any boundary. -/

namespace StringCatalog.Catalog

/-- What is lost at the start of a file leaves all texts as they are. -/
theorem map_singular_headedAll (isFirst : Bool) (strings : List Translatable) :
    (headedAll isFirst strings).map Translatable.singular = strings.map Translatable.singular := by
  cases strings with
  | nil => rfl
  | cons first rest =>
      have same : (headed isFirst first).singular = first.singular := by
        unfold headed
        split <;> rfl
      rw [headedAll, List.map_cons, same, List.map_cons]

/-- **A written catalog can be read,** and `found.map singular = strings.map singular`: it gives
one string for each `IsReadable` one that was written, in the order in which they were and with the
same text. -/
theorem readContent_singulars (tree : FileTree) (path : String) {strings : List Translatable}
    (readable : ∀ string ∈ strings, IsReadable string)
    (noFile : tree.isFile (render strings) = false) :
    ∃ found, (readContent tree path (render strings).toList).all? = .ok found ∧
      found.map Translatable.singular = strings.map Translatable.singular := by
  refine ⟨_, readContent_heard readable noFile, ?_⟩
  rw [List.map_map, List.map_map]
  -- the text of an entry is the one that is stated, whatever else is heard
  exact map_singular_headedAll true strings

/-- Eleven forms, an empty plural, and remarks with blanks and signs of their own. -/
theorem readContent_singulars_many :
    let strings : List Translatable :=
      [⟨"\r\"#\\\n", none, some "", some (List.replicate 11 (some "x\ty")), some "first\n\n last ",
          some "#", ["a b:c"], some ",\u2003fuzzy", {}⟩,
        ⟨"\u00A0", none, none, none, some "msgid \"b\"", none, [], none, {}⟩]
    ∃ found, (readContent .empty "a.po" (render strings).toList).all? = .ok found ∧
      found.map Translatable.singular = strings.map Translatable.singular := by
  refine readContent_singulars .empty "a.po" ?_ (FileTree.isFile_empty _)
  simp only [List.forall_mem_cons]
  exact ⟨⟨by decide, by decide, by decide, by decide⟩,
    ⟨by decide, by decide, by decide, by decide⟩, by simp⟩

/-- A text with a line separator in it is written into a catalog that cannot be read. -/
theorem readContent_separator :
    ∃ string : Translatable, string.singular ≠ "" ∧ none ∉ writtenForms string ∧
      ¬ ∃ found, (readContent .empty "a.po" (render [string]).toList).all? = .ok found := by
  refine ⟨⟨"a\u2028b", none, none, none, none, none, [], none, {}⟩, by decide, by decide, ?_⟩
  rintro ⟨found, read⟩
  have fault : (readContent .empty "a.po" (render
      [⟨"a\u2028b", none, none, none, none, none, [], none, {}⟩]).toList).fault ≠ none := by
    decide +kernel
  exact fault (Reading.all?_eq_ok.1 read).1

end StringCatalog.Catalog
