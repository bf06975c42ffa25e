import Mathlib.Data.List.Induction
import StringCatalog.FileTree.Path
import StringCatalog.Proofs.Text.Blank

/-! # Texts of paths

* **`Path.IsName`** — a name that a path keeps when it is read.
* **`Path.takeBack_append`** — names without steps back stay behind any others.
* **`Path.names_toString`** — the names of a relative path are read back from its text.
* **`Path.toString_child`** — the text of the path to an entry of a folder.
* **`Path.absolute_join`** — a relative path without steps back, written behind a folder, leads below
  the folder. -/

namespace StringCatalog.Path

/-! ## Anchors -/

/-- `anchorOf text = .working`: a text that opens with no slash starts at the working folder. -/
theorem anchorOf_of_ne {text : List Char} (h : text.head? ≠ some '/') : anchorOf text = .working := by
  rw [anchorOf]
  all_goals
    rintro tail rfl
    exact h rfl

/-- `anchorOf ('/' :: text) = .root` if no second slash follows. -/
theorem anchorOf_slash {text : List Char} (h : text.head? ≠ some '/') :
    anchorOf ('/' :: text) = .root := by
  rw [anchorOf]
  all_goals
    rintro tail rfl
    exact h rfl

/-- `anchorOf ('/' :: '/' :: text) = .doubleRoot` if no third slash follows. -/
theorem anchorOf_slashes {text : List Char} (h : text.head? ≠ some '/') :
    anchorOf ('/' :: '/' :: text) = .doubleRoot := by
  rw [anchorOf]
  rintro tail rfl
  exact h rfl

/-- **What does not open with a slash changes no anchor:**
`anchorOf (text ++ more) = anchorOf text`. -/
theorem anchorOf_append {text more : List Char} (h : more.head? ≠ some '/') :
    anchorOf (text ++ more) = anchorOf text := by
  -- behind any other text the first character of the longer one is as good as its own
  have behind {rest : List Char} (first : rest.head? ≠ some '/') : (rest ++ more).head? ≠ some '/' := by
    cases rest with
    | nil => exact h
    | cons c rest => exact first
  by_cases one : text.head? = some '/'
  · obtain ⟨rest, rfl⟩ := List.head?_eq_some_iff.1 one
    by_cases two : rest.head? = some '/'
    · obtain ⟨rest, rfl⟩ := List.head?_eq_some_iff.1 two
      by_cases three : rest.head? = some '/'
      · obtain ⟨rest, rfl⟩ := List.head?_eq_some_iff.1 three
        rfl
      · rw [anchorOf_slashes three]
        exact anchorOf_slashes (behind three)
    · rw [anchorOf_slash two]
      exact anchorOf_slash (behind two)
  · rw [anchorOf_of_ne one]
    exact anchorOf_of_ne (behind one)

/-- `anchorOf (text ++ '/' :: more) = anchorOf text`: a slash behind a text that does not end with
one changes no anchor either. -/
theorem anchorOf_append_slash {text : List Char} (begun : text ≠ []) (last : text.getLast? ≠ some '/')
    (more : List Char) : anchorOf (text ++ '/' :: more) = anchorOf text := by
  obtain ⟨front, c, rfl⟩ : ∃ front c, text = front ++ [c] :=
    ⟨_, _, (List.dropLast_concat_getLast begun).symm⟩
  have other : c ≠ '/' := by simpa using last
  rw [List.append_assoc, anchorOf_append (by simpa using other), anchorOf_append (by simpa using other)]

/-! ## Names -/

/-- **A name that a path keeps when it is read.** -/
structure IsName (name : String) : Prop where
  /-- It is not empty. -/
  some : name ≠ ""
  /-- It does not stay where it is. -/
  leads : name ≠ "."
  /-- It has no slash. -/
  whole : '/' ∉ name.toList

/-- `name.toList ⊆ text.toList ∧ '/' ∉ name.toList`: the names of a text are parts of it, and have
no slash. -/
theorem of_mem_names {text name : String} (member : name ∈ names text) :
    name.toList ⊆ text.toList ∧ '/' ∉ name.toList := by
  obtain ⟨piece, there, rfl⟩ := List.mem_map.1 member
  rw [String.toList_ofList]
  exact ⟨Text.subset_of_mem_split there,
    fun slash => absurd (Text.separates_of_mem_split there _ slash) (by decide)⟩

/-- The names that are read are names of the text. -/
theorem of_mem_parts {text name : String} (member : name ∈ (ofString text).parts) :
    name ∈ names text ∧ IsName name := by
  obtain ⟨there, kept⟩ := List.mem_filter.1 member
  rw [Bool.and_eq_true, bne_iff_ne, bne_iff_ne] at kept
  exact ⟨there, kept.1, kept.2, (of_mem_names there).2⟩

/-- Names are kept in reading. -/
theorem filter_of_isName {parts : List String} (h : ∀ name ∈ parts, IsName name) :
    (parts.filter fun name => name != "" && name != ".") = parts := by
  refine List.filter_eq_self.2 fun name member => ?_
  rw [Bool.and_eq_true, bne_iff_ne, bne_iff_ne]
  exact ⟨(h name member).some, (h name member).leads⟩

/-- `names (first ++ "/" ++ rest) = names first ++ names rest`: a slash stands between the names
before it and those behind it. -/
theorem names_append_slash (first rest : String) :
    names (first ++ "/" ++ rest) = names first ++ names rest := by
  have shape : (first ++ "/" ++ rest).toList = first.toList ++ '/' :: rest.toList := by
    rw [String.toList_append, String.toList_append, List.append_assoc]
    rfl
  rw [names, names, names, shape, @Text.split_append (· == '/') _ _ '/' rfl, List.map_append]

/-! ## Steps back -/

/-- One name more leads on, and a step back leads back. -/
theorem takeBack_concat (parts : List String) (name : String) :
    takeBack (parts ++ [name]) =
      if name = ".." then (takeBack parts).dropLast else takeBack parts ++ [name] := by
  rw [takeBack, takeBack, List.foldl_append, List.foldl_cons, List.foldl_nil]
  by_cases back : name = ".."
  · simp [back, List.dropLast_reverse]
  · simp [back]

/-- **Names without steps back stay** behind any others:
`takeBack (parts ++ rest) = takeBack parts ++ rest`. -/
theorem takeBack_append {parts rest : List String} (h : ".." ∉ rest) :
    takeBack (parts ++ rest) = takeBack parts ++ rest := by
  induction rest using List.reverseRecOn with
  | nil => rw [List.append_nil, List.append_nil]
  | append_singleton rest name ih =>
      rw [List.mem_append, List.mem_singleton, not_or] at h
      rw [← List.append_assoc, takeBack_concat, if_neg (Ne.symm h.2), ih h.1, List.append_assoc]

/-- **What is left** are names of the path, and no steps back: `name ∈ parts ∧ name ≠ ".."`. -/
theorem of_mem_takeBack {parts : List String} {name : String} (member : name ∈ takeBack parts) :
    name ∈ parts ∧ name ≠ ".." := by
  induction parts using List.reverseRecOn with
  | nil => simp [takeBack] at member
  | append_singleton parts last ih =>
      rw [takeBack_concat] at member
      split at member
      · obtain ⟨there, ahead⟩ := ih (List.dropLast_subset _ member)
        exact ⟨List.mem_append_left _ there, ahead⟩
      · next ahead =>
        rcases List.mem_append.1 member with there | here
        · obtain ⟨there, ahead⟩ := ih there
          exact ⟨List.mem_append_left _ there, ahead⟩
        · obtain rfl := List.mem_singleton.1 here
          exact ⟨List.mem_append_right _ here, ahead⟩

/-- `(name = "w" ∨ name ∈ path.parts) ∧ name ≠ ".."`: the names of an absolute path are those of
the path or lead to the working folder, and none is a step back. -/
theorem of_mem_absolute {path : Path} {name : String} (member : name ∈ path.absolute.parts) :
    (name = "w" ∨ name ∈ path.parts) ∧ name ≠ ".." := by
  obtain ⟨anchor, parts⟩ := path
  cases anchor with
  | working =>
      obtain ⟨there, ahead⟩ := of_mem_takeBack member
      exact ⟨List.mem_cons.1 there, ahead⟩
  | root | doubleRoot =>
      obtain ⟨there, ahead⟩ := of_mem_takeBack member
      exact ⟨.inr there, ahead⟩

/-- `IsName name ∧ name ≠ ".." ∧ (name = "w" ∨ name.toList ⊆ text.toList)`: the names of an
absolute path that is read from a text. -/
theorem of_mem_absolute_ofString {text name : String} (member : name ∈ (ofString text).absolute.parts) :
    IsName name ∧ name ≠ ".." ∧ (name = "w" ∨ name.toList ⊆ text.toList) := by
  obtain ⟨rfl | there, ahead⟩ := of_mem_absolute member
  · exact ⟨⟨by decide, by decide, by decide⟩, ahead, .inl rfl⟩
  · obtain ⟨among, isName⟩ := of_mem_parts there
    exact ⟨isName, ahead, .inr (of_mem_names among).1⟩

/-- `path.absolute.anchor = .root`: an absolute path starts at the root, unless two slashes are
kept. -/
theorem anchor_absolute {path : Path} (single : path.anchor ≠ .doubleRoot) :
    path.absolute.anchor = .root := by
  obtain ⟨anchor, parts⟩ := path
  cases anchor with
  | working | root => rfl
  | doubleRoot => exact absurd rfl single

/-- **A path that goes on without steps back** leads below where it led before. -/
theorem absolute_append {anchor : Anchor} {parts rest : List String} (h : ".." ∉ rest) :
    (Path.mk anchor (parts ++ rest)).absolute =
      ⟨(Path.mk anchor parts).absolute.anchor, (Path.mk anchor parts).absolute.parts ++ rest⟩ := by
  cases anchor with
  | working => rw [absolute, ← List.append_assoc, takeBack_append h]; rfl
  | root | doubleRoot => rw [absolute, takeBack_append h]; rfl

/-! ## Texts -/

/-- The text of a path that goes through some names. -/
theorem toString_of_ne_nil (anchor : Anchor) {parts : List String} (begun : parts ≠ []) :
    (Path.mk anchor parts).toString = anchor.toString ++ Text.joined "/" parts := by
  obtain ⟨first, rest, rfl⟩ := List.exists_cons_of_ne_nil begun
  cases anchor <;> rfl

/-- The text of a relative path that leads somewhere. -/
theorem toList_toString_cons (first : String) (rest : List String) :
    (Path.mk .working (first :: rest)).toString.toList =
      ['/'].intercalate ((first :: rest).map String.toList) :=
  String.toList_intercalate

/-- **The names of a relative path** are read back from its text; the working folder itself is written
as a full stop. -/
theorem names_toString {parts : List String} (h : ∀ name ∈ parts, IsName name) :
    names (Path.mk .working parts).toString = if parts = [] then ["."] else parts := by
  cases parts with
  | nil => rfl
  | cons first rest =>
      have whole : ∀ piece ∈ (first :: rest).map String.toList, ∀ c ∈ piece, (c == '/') = false := by
        rw [List.forall_mem_map]
        intro name member c inside
        rw [beq_eq_false_iff_ne]
        rintro rfl
        exact (h name member).whole inside
      rw [if_neg (List.cons_ne_nil first rest), names, toList_toString_cons,
        Text.split_intercalate (by simp) whole (beq_self_eq_true '/'), List.map_map]
      exact (List.map_congr_left fun name _ => String.ofList_toList).trans (List.map_id _)

/-- `names ("/" ++ rest) = "" :: names rest`: a slash in front opens an empty name. -/
theorem names_slash (rest : String) : names ("/" ++ rest) = "" :: names rest :=
  names_append_slash "" rest

/-- **The names of a path from any start** are read back from its text, behind an empty name for each
slash that it opens with. -/
theorem names_toString_of_ne_nil (anchor : Anchor) {parts : List String} (begun : parts ≠ [])
    (h : ∀ name ∈ parts, IsName name) :
    names (Path.mk anchor parts).toString = List.replicate anchor.toString.length "" ++ parts := by
  have relative := names_toString h
  rw [if_neg begun, toString_of_ne_nil _ begun] at relative
  rw [toString_of_ne_nil _ begun]
  cases anchor with
  | working => exact relative
  | root => rw [show Anchor.root.toString = "/" ++ Anchor.working.toString from rfl,
      String.append_assoc, names_slash, relative]; rfl
  | doubleRoot => rw [show Anchor.doubleRoot.toString = "/" ++ ("/" ++ Anchor.working.toString) from rfl,
      String.append_assoc, String.append_assoc, names_slash, names_slash, relative]; rfl

/-- `(Path.mk .working parts).toString.toList.head? ≠ some '/'`: a relative path does not open with
a slash. -/
theorem head?_toString {parts : List String} (h : ∀ name ∈ parts, IsName name) :
    (Path.mk .working parts).toString.toList.head? ≠ some '/' := by
  cases parts with
  | nil => decide
  | cons first rest =>
      obtain ⟨some, -, whole⟩ := h first List.mem_cons_self
      obtain ⟨c, text, shape⟩ := List.exists_cons_of_ne_nil (mt String.toList_eq_nil_iff.1 some)
      have other : c ≠ '/' := by
        rintro rfl
        exact whole (shape ▸ List.mem_cons_self)
      rw [toList_toString_cons, List.map_cons, shape]
      cases rest with
      | nil => simpa using other
      | cons second rest => simpa [List.intercalate_cons_cons] using other

/-- **A path is absolute in its text** just where it does not start at the working folder:
`isAbsoluteText path.toString = true ↔ path.anchor ≠ .working`. -/
theorem isAbsoluteText_toString {path : Path} (h : ∀ name ∈ path.parts, IsName name) :
    isAbsoluteText path.toString = true ↔ path.anchor ≠ .working := by
  obtain ⟨anchor, parts⟩ := path
  cases anchor with
  | working => simpa [isAbsoluteText] using head?_toString h
  | root | doubleRoot => simp [isAbsoluteText, toString, Anchor.toString]

/-- `path.toString ≠ ""`: the text of a path is not empty. -/
theorem toString_ne_empty {path : Path} (h : ∀ name ∈ path.parts, IsName name) :
    path.toString ≠ "" := by
  obtain ⟨anchor, parts⟩ := path
  intro empty
  by_cases begun : parts = []
  · subst begun
    revert empty
    cases anchor <;> decide
  · have named := names_toString_of_ne_nil anchor begun h
    rw [empty] at named
    -- the one name of an empty text is empty
    have blank : ∀ name ∈ List.replicate anchor.toString.length "" ++ parts, name = "" := by
      rw [← named]
      decide
    obtain ⟨name, member⟩ := List.exists_mem_of_ne_nil parts begun
    exact (h name member).some (blank name (List.mem_append_right _ member))

/-- **The text of the path to an entry** is that of the folder and the name, with one slash between
them. -/
theorem toString_child (folder : Path) (name : String) : (folder.child name).toString =
    (if folder.parts = [] then folder.anchor.toString else folder.toString ++ "/") ++ name := by
  obtain ⟨anchor, parts⟩ := folder
  rw [child, toString_of_ne_nil _ (by simp)]
  by_cases begun : parts = []
  · subst begun
    simp [Text.joined]
  · have joined : Text.joined "/" (parts ++ [name]) = Text.joined "/" parts ++ "/" ++ name := by
      rw [← String.toList_inj, Text.joined, Text.joined, String.toList_append, String.toList_append,
        String.toList_intercalate, String.toList_intercalate, List.map_append, List.map_singleton]
      exact Text.intercalate_concat _ (by simpa using begun) _
    rw [if_neg begun, toString_of_ne_nil _ begun, joined]
    simp only [String.append_assoc]

/-- The characters of a relative path are those of its names, slashes and a full stop. -/
theorem of_mem_toString {parts : List String} {c : Char}
    (member : c ∈ (Path.mk .working parts).toString.toList) :
    c = '.' ∨ c = '/' ∨ ∃ name ∈ parts, c ∈ name.toList := by
  cases parts with
  | nil => exact .inl (List.mem_singleton.1 member)
  | cons first rest =>
      rw [toList_toString_cons, List.map_cons] at member
      right
      induction rest generalizing first with
      | nil => exact .inr ⟨first, List.mem_cons_self, by simpa using member⟩
      | cons second rest ih =>
          rw [List.map_cons, List.intercalate_cons_cons, List.mem_append, List.mem_append,
            List.mem_singleton] at member
          rcases member with (here | slash) | later
          · exact .inr ⟨first, List.mem_cons_self, here⟩
          · exact .inl slash
          · exact (ih second later).imp_right fun ⟨name, among, inside⟩ =>
              ⟨name, List.mem_cons_of_mem first among, inside⟩

/-- **A relative path is read back** from its text:
`ofString (Path.mk .working parts).toString = ⟨.working, parts⟩`. -/
theorem ofString_toString {parts : List String} (h : ∀ name ∈ parts, IsName name) :
    ofString (Path.mk .working parts).toString = ⟨.working, parts⟩ := by
  rw [ofString, anchorOf_of_ne (head?_toString h), names_toString h]
  split
  · next none => rw [none]; rfl
  · rw [filter_of_isName h]

/-- `(Path.mk .working [name]).toString = name`: the text of a path of one name is the name. -/
theorem toString_single (name : String) : (Path.mk .working [name]).toString = name := by
  simp [toString, Anchor.toString, Text.joined]

/-- `ofString name = ⟨.working, [name]⟩`: a name is a path of its own. -/
theorem ofString_single {name : String} (known : IsName name) :
    ofString name = ⟨.working, [name]⟩ := by
  have read := @ofString_toString [name] (by simpa using known)
  rwa [toString_single] at read

/-! ## One step up -/

/-- `path.parent = path`: the working folder and the root are in no other folder. -/
theorem parent_of_parts_eq_nil {path : Path} (empty : path.parts = []) :
    path.parent = path := by
  obtain ⟨anchor, parts⟩ := path
  obtain rfl : parts = [] := empty
  rfl

/-- `path.parent.child path.name = path`: any other path leads to an entry of the folder above. -/
theorem parent_child_name {path : Path} (begun : path.parts ≠ []) :
    path.parent.child path.name = path := by
  obtain ⟨anchor, parts⟩ := path
  rcases List.eq_nil_or_concat parts with rfl | ⟨front, last, rfl⟩
  · exact absurd rfl begun
  · simp [child, parent, name]

/-- The last name of a path is one of its names. -/
theorem name_mem_parts {path : Path} (begun : path.parts ≠ []) :
    path.name ∈ path.parts := by
  rcases List.eq_nil_or_concat path.parts with empty | ⟨front, last, shape⟩
  · exact absurd empty begun
  · simp [name, shape]

/-! ## Joining -/

/-- **The text of a relative path behind that of a folder,** with one slash between them. -/
def join (folder path : String) : String :=
  if folder.toList.getLast? = some '/' then folder ++ path else folder ++ "/" ++ path

/-- **A path behind a folder** starts where the folder does and goes through the names of both. -/
theorem ofString_join {folder path : String} (begun : folder ≠ "")
    (relative : path.toList.head? ≠ some '/') :
    ofString (join folder path) =
      ⟨(ofString folder).anchor, (ofString folder).parts ++ (ofString path).parts⟩ := by
  unfold join
  split
  · next last =>
    obtain ⟨front, shape⟩ := List.getLast?_eq_some_iff.1 last
    have folder_eq : folder = String.ofList front ++ "/" ++ "" := by
      rw [← String.ofList_toList (s := folder), shape]
      simp
    -- the slash at its end opens an empty name in the folder alone
    have both : names (folder ++ path) = names (String.ofList front) ++ names path := by
      rw [← names_append_slash, folder_eq, String.append_empty]
    have own : names folder = names (String.ofList front) ++ [""] := by
      rw [folder_eq, names_append_slash]
      rfl
    rw [ofString, ofString, ofString, String.toList_append, anchorOf_append relative, both, own]
    simp
  · next last =>
    have anchor : anchorOf (folder ++ "/" ++ path).toList = anchorOf folder.toList := by
      rw [String.toList_append, String.toList_append, List.append_assoc]
      exact anchorOf_append_slash (mt String.toList_eq_nil_iff.1 begun) last _
    rw [ofString, ofString, ofString, anchor, names_append_slash, List.filter_append]

/-- **A relative path without steps back, written behind a folder,** leads below the folder. -/
theorem absolute_join {folder : String} (begun : folder ≠ "") {parts : List String}
    (h : ∀ name ∈ parts, IsName name) (ahead : ".." ∉ parts) :
    (ofString (join folder (Path.mk .working parts).toString)).absolute =
      ⟨(ofString folder).absolute.anchor, (ofString folder).absolute.parts ++ parts⟩ := by
  rw [ofString_join begun (head?_toString h), ofString_toString h, absolute_append ahead]

end StringCatalog.Path
