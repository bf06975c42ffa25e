import Mathlib.Data.List.Nodup
import Mathlib.Data.List.Perm.Subperm
import StringCatalog.Proofs.Xml.Proper

/-! # Nodes that move can still be written

* **`Xml.freshLead_notMem`** — a fresh prefix is not bound.
* **`Xml.IsDeclaration`** — bindings that a new place can declare.
* **`Xml.isProper_settle`** — one node in its new place can be written.
* **`Xml.isProper_transplant`** — so can all of them, with the bindings that the place declares. -/

namespace StringCatalog.Xml

/-! ## Fresh prefixes -/

/-- A numbered prefix. -/
def numberedLead (i : Nat) : List Char := ("ns" ++ toString i).toList

/-- `numberedLead i` is `ns` with the digits of `i`. -/
theorem numberedLead_eq (i : Nat) : numberedLead i = 'n' :: 's' :: Nat.toDigits 10 i := by
  simp [numberedLead, String.toList_append, Nat.toList_repr]

/-- Numbered prefixes are all different. -/
theorem numberedLead_injective : Function.Injective numberedLead := by
  intro i j same
  simp only [numberedLead_eq, List.cons.injEq, true_and] at same
  rw [← Nat.ofDigitChars_ten_toDigits (n := i), same, Nat.ofDigitChars_ten_toDigits]

/-- A numbered prefix may be bound. -/
theorem isBindable_numberedLead (i : Nat) : IsBindable (numberedLead i) := by
  have digits : ∀ c ∈ Nat.toDigits 10 i, c.isDigit := fun c member =>
    Nat.isDigit_of_mem_toDigits (by decide) (by decide) member
  rw [numberedLead_eq]
  refine ⟨isPlainName_iff.2 ⟨isName_iff.2 ⟨'n', _, rfl, by decide, fun c member => ?_⟩, ?_⟩, by simp,
    by simp⟩
  · rcases List.mem_cons.1 member with rfl | member
    · decide
    · simp [isNameChar, digits c member]
  · intro member
    simp only [List.mem_cons, Char.reduceEq, false_or] at member
    exact absurd (digits ':' member) (by decide)

/-- Some numbered prefix is not bound: there are more of them than bindings. -/
theorem exists_numberedLead (bindings : List Binding) :
    ∃ i ∈ List.range (bindings.length + 1),
      some (numberedLead i) ∉ bindings.map Binding.lead := by
  -- one prefix more than there are bindings: they cannot all be bound
  by_contra all
  push Not at all
  let names := (List.range (bindings.length + 1)).map fun i => some (numberedLead i)
  have nodup : names.Nodup := List.nodup_range.map fun i j same =>
    numberedLead_injective (Option.some.inj same)
  have among : names ⊆ bindings.map Binding.lead := by
    intro name member
    obtain ⟨i, inside, rfl⟩ := List.mem_map.1 member
    exact all i inside
  have short := (nodup.subperm among).length_le
  simp only [names, List.length_map, List.length_range] at short
  omega

/-- A fresh prefix is the wanted one or a numbered one, and it is not bound. -/
theorem freshLead_cases (bindings : List Binding) (wanted : List Char) :
    some (freshLead bindings wanted) ∉ bindings.map Binding.lead ∧
      (freshLead bindings wanted = wanted ∨ ∃ i, freshLead bindings wanted = numberedLead i) := by
  have free (lead : List Char) : (!bindings.any (·.lead == some lead)) = true ↔
      some lead ∉ bindings.map Binding.lead := by
    simp
  unfold freshLead
  dsimp only
  split
  · next new => exact ⟨(free wanted).1 new, .inl rfl⟩
  · cases found : ((List.range (bindings.length + 1)).map numberedLead).find?
        fun lead => !bindings.any (·.lead == some lead) with
    | none =>
        obtain ⟨i, inside, new⟩ := exists_numberedLead bindings
        exact absurd ((free _).2 new)
          (List.find?_eq_none.1 found _ (List.mem_map_of_mem inside))
    | some lead =>
        obtain ⟨i, -, rfl⟩ := List.mem_map.1 (List.mem_of_find?_eq_some found)
        have new := List.find?_some found
        erw [found]
        exact ⟨(free _).1 new, .inr ⟨i, rfl⟩⟩

/-- **A fresh prefix is not bound:**
`some (freshLead bindings wanted) ∉ bindings.map Binding.lead`. -/
theorem freshLead_notMem (bindings : List Binding) (wanted : List Char) :
    some (freshLead bindings wanted) ∉ bindings.map Binding.lead :=
  (freshLead_cases bindings wanted).1

/-- A fresh prefix may be bound. -/
theorem isBindable_freshLead (bindings : List Binding) {wanted : List Char}
    (h : IsBindable wanted) : IsBindable (freshLead bindings wanted) := by
  rcases (freshLead_cases bindings wanted).2 with same | ⟨i, same⟩
  · rwa [same]
  · rw [same]
    exact isBindable_numberedLead i

/-! ## Renaming -/

/-- Bindings whose prefixes may be bound:
`∀ binding ∈ bindings, ∀ lead ∈ binding.lead, IsBindable lead`. -/
def AreBindable (bindings : List Binding) : Prop :=
  ∀ binding ∈ bindings, ∀ lead ∈ binding.lead, IsBindable lead

/-- What is around a node binds only prefixes that may be bound:
`AreBindable (around.bindings ++ around.own.toList)`. -/
def Surrounding.IsProper (around : Surrounding) : Prop :=
  AreBindable (around.bindings ++ around.own.toList)

/-- Prefixes become only prefixes that may be bound:
`∀ entry ∈ renames, ∀ lead ∈ entry.2, IsBindable lead`. -/
def Renaming.IsProper (renames : Renaming) : Prop :=
  ∀ entry ∈ renames, ∀ lead ∈ entry.2, IsBindable lead

/-- A prefix that is found can be bound. -/
theorem isBindable_of_leadFor? {uri lead : List Char} {hidden : List (Option (List Char))}
    {bindings : List Binding} (h : AreBindable bindings)
    (found : leadFor? uri hidden bindings = some (some lead)) : IsBindable lead := by
  obtain ⟨binding, there, same⟩ := Option.map_eq_some_iff.1 found
  exact h binding (List.mem_of_find?_eq_some there) lead same

/-- So can one that is found further out. -/
theorem isBindable_of_knownLead? {uri lead : List Char} {around : List Surrounding}
    (h : ∀ place ∈ around, place.IsProper) (found : knownLead? uri around = some (some lead)) :
    IsBindable lead := by
  unfold knownLead? at found
  -- outwards the search hides more prefixes and counts the names of elements
  generalize true = isNearest at found
  generalize ([] : List (Option (List Char))) = hidden at found
  induction around generalizing isNearest hidden with
  | nil => cases found
  | cons place outer ih =>
      rw [List.forall_mem_cons] at h
      rw [knownLeadFrom?] at found
      split at found
      · next there =>
        cases found
        refine isBindable_of_leadFor? (fun binding member => ?_) there
        split at member
        · exact h.1 binding (List.mem_append_left _ member)
        · exact h.1 binding member
      · exact ih h.2 _ _ found

/-- **What stays of some bindings** are some of them, and their prefixes become prefixes that may be
bound. -/
theorem isProper_keepNew {around : List Surrounding} (h : ∀ place ∈ around, place.IsProper)
    {bindings : List Binding} (proper : ∀ binding ∈ bindings, binding.IsProper) :
    (keepNew around bindings).1.Sublist bindings ∧
      (keepNew around bindings).2.IsProper := by
  induction bindings with
  | nil => exact ⟨.slnil, by simp [keepNew, Renaming.IsProper]⟩
  | cons binding bindings ih =>
      rw [List.forall_mem_cons] at proper
      obtain ⟨kept, renames⟩ := ih proper.2
      -- a binding stays under its own prefix, or goes and leaves the one that is known around it
      cases known : knownLead? binding.uri around with
      | none =>
          simp only [keepNew, known]
          refine ⟨kept.cons_cons binding, List.forall_mem_cons.2 ⟨fun lead same => ?_, renames⟩⟩
          exact (proper.1.lead lead same).1
      | some lead =>
          simp only [keepNew, known]
          refine ⟨kept.cons binding, List.forall_mem_cons.2 ⟨fun next same => ?_, renames⟩⟩
          have same : lead = some next := same
          exact isBindable_of_knownLead? h (same ▸ known)

/-- `(Name.ofText (lead ++ ':' :: base)).declaredLead? = none`: a prefix that may be bound declares
nothing before a colon. -/
theorem declaredLead?_ofText {lead : List Char} (h : IsBindable lead) (base : List Char) :
    (Name.ofText (lead ++ ':' :: base)).declaredLead? = none := by
  rw [Name.ofText, Text.cutAt?_append (isPlainName_iff.1 h.plain).2]
  dsimp only
  -- undivided, the text has a colon, which the word for declarations has not
  split
  · exact if_neg (by simpa using h.notDeclaration)
  · have colon : lead ++ ':' :: base ≠ "xmlns".toList := by
      intro same
      have member : ':' ∈ "xmlns".toList := same ▸ by simp
      simp at member
    exact if_neg (by simpa using colon)

/-- What a prefix has become may be bound, if it may be itself. -/
theorem Renaming.IsProper.lookup {renames : Renaming} (h : renames.IsProper)
    {lead : Option (List Char)} (proper : ∀ l ∈ lead, IsBindable l) :
    ∀ next ∈ (renames.lookup lead).getD lead, IsBindable next := by
  intro next same
  cases found : renames.lookup lead with
  | none =>
      rw [found] at same
      exact proper next same
  | some value =>
      rw [found] at same
      obtain ⟨front, back, equal, -⟩ := List.lookup_eq_some_iff.1 found
      exact h (lead, value) (by simp [equal]) next same

/-- **The name of an element in its new place can be written.** -/
theorem isProper_renamed {renames : Renaming} (h : renames.IsProper) {name : Name}
    {uri : Option (List Char)} (proper : name.IsProper)
    (space : isBound name uri → ∀ lead ∈ name.lead, IsBindable lead) :
    (renamed renames name uri).IsProper ∧
      (isBound name uri → ∀ lead ∈ (renamed renames name uri).lead, IsBindable lead) := by
  unfold renamed
  split
  · next bound =>
    have leads := h.lookup (space bound)
    exact ⟨⟨proper.base, fun lead same => (leads lead same).plain⟩, fun _ => leads⟩
  · exact ⟨proper, space⟩

/-- A name that is bound in its new place was bound before. -/
theorem isBound_of_renamed {renames : Renaming} {name : Name} {uri : Option (List Char)}
    (h : isBound (renamed renames name uri) uri) : isBound name uri := by
  unfold renamed at h
  split at h
  · assumption
  · exact h

/-! ## Declarations of the new place -/

/-- **Bindings that a new place can declare:** each of its own prefix. -/
structure IsDeclaration (declared : List Binding) : Prop where
  /-- They can be written. -/
  proper : ∀ binding ∈ declared, binding.IsProper
  /-- No prefix is bound twice. -/
  nodup : (declared.map Binding.lead).Nodup
  /-- Names without a prefix are in no namespace. -/
  isSome : ∀ binding ∈ declared, binding.lead.isSome

/-- What is declared in the new place can be bound. -/
theorem IsDeclaration.areBindable {declared : List Binding} (h : IsDeclaration declared) :
    AreBindable declared :=
  fun binding member lead same => ((h.proper binding member).lead lead same).1

/-- One more binding is declared if its prefix is new. -/
theorem IsDeclaration.concat {declared : List Binding} (h : IsDeclaration declared)
    {lead uri : List Char} (bindable : IsBindable lead) (declarable : IsDeclarable uri)
    (new : some lead ∉ declared.map Binding.lead) :
    IsDeclaration (declared ++ [⟨some lead, uri⟩]) where
  proper := by
    intro binding member
    rcases List.mem_append.1 member with member | member
    · exact h.proper binding member
    · obtain rfl := List.mem_singleton.1 member
      refine ⟨declarable.legal, declarable.notXml, declarable.notDeclaration, ?_⟩
      simpa using ⟨bindable, declarable.nonempty⟩
  nodup := by
    rw [List.map_append, List.map_singleton, List.nodup_append]
    refine ⟨h.nodup, by simp, ?_⟩
    simpa using new
  isSome := by
    simpa [or_imp, forall_and] using h.isSome

/-- An attribute under a prefix that may be bound can be written. -/
theorem Attribute.IsProper.withLead {entry : Attribute} (h : entry.IsProper) {uri next : List Char}
    (space : entry.uri = some uri) (declarable : IsDeclarable uri) (bindable : IsBindable next) :
    { entry with name := ⟨some next, entry.name.base⟩ : Attribute }.IsProper where
  name := ⟨h.name.base, by simpa using bindable.plain⟩
  undeclared := declaredLead?_ofText bindable entry.name.base
  value := h.value
  space := by
    intro other same lead lead_same _
    obtain rfl : uri = other := by simpa [space] using same
    obtain rfl : next = lead := by simpa using lead_same
    exact ⟨bindable, declarable⟩

/-- **An attribute in its new place can be written.** -/
theorem isProper_renameAttribute {renames : Renaming} (h : renames.IsProper)
    {declared : List Binding} (known : IsDeclaration declared) {entry : Attribute}
    (proper : entry.IsProper) :
    IsDeclaration (renameAttribute renames declared entry).1 ∧
      (renameAttribute renames declared entry).2.IsProper := by
  unfold renameAttribute
  -- no namespace, the prefix from the start, a prefix, a declared one, and one to declare
  split
  · next uri lead space first =>
    split
    · exact ⟨known, proper⟩
    · next notXml =>
      obtain ⟨bindable, declarable⟩ := proper.space uri space lead first (by simpa using notXml)
      have leads := @Renaming.IsProper.lookup renames h (some lead) (by simpa using bindable)
      split
      · next next found => exact ⟨known, proper.withLead space declarable (leads next found)⟩
      · split
        · next next found =>
          exact ⟨known, proper.withLead space declarable
            (isBindable_of_leadFor? known.areBindable found)⟩
        · have fresh := isBindable_freshLead declared bindable
          exact ⟨known.concat fresh declarable (freshLead_notMem declared lead),
            proper.withLead space declarable fresh⟩
  · exact ⟨known, proper⟩

/-- Renamed attributes are proper, and so is what is declared for them. -/
theorem isProper_renameAttributes {renames : Renaming} (h : renames.IsProper)
    {declared : List Binding} (known : IsDeclaration declared) {entries : List Attribute}
    (proper : ∀ entry ∈ entries, entry.IsProper) :
    IsDeclaration (renameAttributes renames declared entries).1 ∧
      ∀ entry ∈ (renameAttributes renames declared entries).2, entry.IsProper := by
  induction entries generalizing declared with
  | nil => exact ⟨known, by simp [renameAttributes]⟩
  | cons entry entries ih =>
      rw [List.forall_mem_cons] at proper
      obtain ⟨first, good⟩ := isProper_renameAttribute h known proper.1
      obtain ⟨others, rest⟩ := ih first proper.2
      exact ⟨others, List.forall_mem_cons.2 ⟨good, rest⟩⟩

/-! ## Nodes in their new place -/

mutual

/-- **A node in its new place can be written.** -/
theorem isProper_settle (node : Node) (proper : node.IsProper) {around : List Surrounding}
    (places : ∀ place ∈ around, place.IsProper) {renames : Renaming} (h : renames.IsProper)
    {declared : List Binding} (known : IsDeclaration declared) :
    IsDeclaration (node.settle around renames declared).1 ∧
      (node.settle around renames declared).2.IsProper := by
  match node with
  | .text content => exact ⟨known, proper⟩
  | .comment content => exact ⟨known, proper⟩
  | .instruction target data => exact ⟨known, proper⟩
  | .reference name => exact ⟨known, proper⟩
  | .element head children =>
      have start := proper.head
      -- the new place is around the node as well, with what it declares so far
      have all : ∀ place ∈ around ++ [⟨declared, none⟩], place.IsProper := by
        intro place member
        rcases List.mem_append.1 member with member | member
        · exact places place member
        · obtain rfl := List.mem_singleton.1 member
          simpa [Surrounding.IsProper] using known.areBindable
      obtain ⟨kept, added⟩ := isProper_keepNew all start.bindings
      rw [Node.settle]
      generalize keepNew (around ++ [⟨declared, none⟩]) head.bindings = new at kept added ⊢
      have more : Renaming.IsProper (new.2 ++ renames) := fun entry member =>
        (List.mem_append.1 member).elim (added entry) (h entry)
      obtain ⟨name, space⟩ := isProper_renamed more start.name start.space
      obtain ⟨first, attributes⟩ := isProper_renameAttributes more known start.attributes
      -- what is inside sees the bindings that stay and the one of the element's name
      have own : Surrounding.IsProper ⟨new.1, if isBound head.name head.uri then
          head.uri.map (Binding.mk (renamed (new.2 ++ renames) head.name head.uri).lead)
          else none⟩ := by
        intro binding member
        rcases List.mem_append.1 member with member | member
        · exact fun lead same => ((start.bindings binding (kept.subset member)).lead lead same).1
        · split at member
          · next bound =>
            obtain ⟨uri, -, rfl⟩ := Option.map_eq_some_iff.1 (Option.mem_toList.1 member)
            exact space bound
          · simp at member
      obtain ⟨last, inner⟩ := isProper_settleAll children proper.children
        (List.forall_mem_cons.2 ⟨own, places⟩) more first
      refine ⟨last, .element ⟨name, fun bound => space (isBound_of_renamed bound),
        fun binding member => ?_, ?_, attributes⟩ inner⟩
      · exact start.bindings binding (kept.subset member)
      · exact start.nodup.sublist (kept.map Binding.lead)

/-- **Nodes in their new place can be written.** -/
theorem isProper_settleAll (nodes : List Node) (proper : ∀ node ∈ nodes, node.IsProper)
    {around : List Surrounding} (places : ∀ place ∈ around, place.IsProper) {renames : Renaming}
    (h : renames.IsProper) {declared : List Binding} (known : IsDeclaration declared) :
    IsDeclaration (settleAll around renames declared nodes).1 ∧
      ∀ node ∈ (settleAll around renames declared nodes).2, node.IsProper := by
  match nodes with
  | [] => exact ⟨known, by simp [settleAll]⟩
  | node :: nodes =>
      rw [List.forall_mem_cons] at proper
      obtain ⟨first, good⟩ := isProper_settle node proper.1 places h known
      obtain ⟨others, rest⟩ := isProper_settleAll nodes proper.2 places h first
      exact ⟨others, List.forall_mem_cons.2 ⟨good, rest⟩⟩

end

/-- **Nodes that move can be written in their new place,** with the bindings that it declares. -/
theorem isProper_transplant {nodes : List Node} (proper : ∀ node ∈ nodes, node.IsProper) :
    IsDeclaration (transplant nodes).1 ∧ ∀ node ∈ (transplant nodes).2, node.IsProper :=
  isProper_settleAll nodes proper (by simp) (by simp [Renaming.IsProper])
    ⟨by simp, by simp, by simp⟩

end StringCatalog.Xml
