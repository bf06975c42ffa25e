import Mathlib.Data.List.Nodup
import Mathlib.Data.List.Perm.Subperm
import StringCatalog.Placeholder.Comparison

/-! # What comparing placeholders tells

A source and its translation are compared by how many placeholders they have and by which ones occur
at all, not by how often each of them occurs:

* **`keepsPlaceholders_eq_true_iff`** — when a translation passes.
* **`exists_count_lt`** — what may still differ then: one placeholder occurs less often, and so another
  one more often.
* **`keepsPlaceholders_cases`** — which translations pass, and which of them have the same placeholders
  as often as the source. -/

namespace StringCatalog

/-- The placeholders of a text as they are spelled. -/
def spellings (text : String) : List String :=
  (placeholders text).map Placeholder.text

/-! ## Mismatches -/

/-- `text ∈ textsBeyond texts others ↔ text ∈ texts ∧ text ∉ others`: the texts beyond others are
those that are not among these. -/
theorem mem_textsBeyond {texts others : List String} {text : String} :
    text ∈ textsBeyond texts others ↔ text ∈ texts ∧ text ∉ others := by
  rw [textsBeyond, List.mem_mergeSort, List.mem_eraseDups, List.mem_filter]
  simp

/-- `textsBeyond texts others = [] ↔ texts ⊆ others`: there are none just where all texts are among
the others. -/
theorem textsBeyond_eq_nil_iff {texts others : List String} :
    textsBeyond texts others = [] ↔ texts ⊆ others := by
  rw [List.eq_nil_iff_forall_not_mem]
  constructor
  · intro none text member
    by_contra missing
    exact none text (mem_textsBeyond.2 ⟨member, missing⟩)
  · intro all text member
    obtain ⟨here, missing⟩ := mem_textsBeyond.1 member
    exact missing (all here)

/-- **Nothing differs in number and kind** where there are as many placeholders and the same ones
occur. -/
theorem contentMismatches_eq_nil_iff {source translation : List Placeholder} :
    contentMismatches source translation = [] ↔
      source.length = translation.length ∧
        ∀ text, text ∈ source.map Placeholder.text ↔ text ∈ translation.map Placeholder.text := by
  have count : (if source.length == translation.length then []
      else [Mismatch.count source.length translation.length]) = [] ↔
        source.length = translation.length := by
    by_cases same : source.length = translation.length <;> simp [same]
  rw [contentMismatches, List.append_eq_nil_iff, List.append_eq_nil_iff, List.map_eq_nil_iff,
    List.map_eq_nil_iff, textsBeyond_eq_nil_iff, textsBeyond_eq_nil_iff, count, and_assoc]
  constructor
  · rintro ⟨length, none, more⟩
    exact ⟨length, fun text => ⟨fun member => none member, fun member => more member⟩⟩
  · rintro ⟨length, same⟩
    exact ⟨length, fun text => (same text).1, fun text => (same text).2⟩

/-- `mismatch.severity = .critical`: all differences in number and kind are critical. -/
theorem severity_of_mem_contentMismatches {source translation : List Placeholder}
    {mismatch : Mismatch} (member : mismatch ∈ contentMismatches source translation) :
    mismatch.severity = .critical := by
  rw [contentMismatches, List.mem_append, List.mem_append] at member
  rcases member with (count | missing) | extra
  · split at count
    · cases count
    · obtain rfl := List.mem_singleton.1 count
      rfl
  · obtain ⟨text, -, rfl⟩ := List.mem_map.1 missing
    rfl
  · obtain ⟨text, -, rfl⟩ := List.mem_map.1 extra
    rfl

/-- **A translation passes** where nothing differs in number and kind: a change of order alone is no
more than a warning. -/
theorem keepsPlaceholders_eq_true_iff {source translation : String} :
    keepsPlaceholders source translation = true ↔
      (spellings source).length = (spellings translation).length ∧
        ∀ text, text ∈ spellings source ↔ text ∈ spellings translation := by
  have content := @contentMismatches_eq_nil_iff (placeholders source) (placeholders translation)
  rw [spellings, spellings, List.length_map, List.length_map, ← content, keepsPlaceholders,
    List.all_eq_true]
  unfold mismatches
  dsimp only
  constructor
  · intro passes
    by_contra differ
    -- something is found, so that it is all that there is, and it is critical
    obtain ⟨mismatch, member⟩ := List.exists_mem_of_ne_nil _ differ
    have isEmpty : (contentMismatches (placeholders source) (placeholders translation)).isEmpty =
        false := by
      simpa using differ
    rw [isEmpty] at passes
    have minor := passes mismatch member
    rw [severity_of_mem_contentMismatches member] at minor
    cases minor
  · intro none mismatch member
    rw [none] at member
    split at member
    · obtain rfl := List.mem_singleton.1 member
      rfl
    · cases member

/-! ## How often each placeholder occurs -/

/-- **Where as many texts are no rearrangement of others,** one of them occurs less often among
these. -/
theorem exists_count_lt {texts others : List String} (length : others.length ≤ texts.length)
    (apart : ¬ texts.Perm others) : ∃ text ∈ texts, others.count text < texts.count text := by
  by_contra fewer
  have within : ∀ text ∈ texts, texts.count text ≤ others.count text := by
    intro text member
    by_contra less
    exact fewer ⟨text, member, Nat.lt_of_not_le less⟩
  exact apart ((List.subperm_ext_iff.2 within).perm_of_length_le length)

/-- **What a translation that passes may still lose:** one placeholder occurs less often in it, though
it still does, and another one more often. -/
theorem exists_lost_gained {source translation : String}
    (passes : keepsPlaceholders source translation = true)
    (apart : ¬(spellings source).Perm (spellings translation)) :
    ∃ lost gained, 0 < (spellings translation).count lost ∧
      (spellings translation).count lost < (spellings source).count lost ∧
      0 < (spellings source).count gained ∧
      (spellings source).count gained < (spellings translation).count gained := by
  obtain ⟨length, same⟩ := keepsPlaceholders_eq_true_iff.1 passes
  obtain ⟨lost, here, less⟩ := exists_count_lt (Nat.le_of_eq length.symm) apart
  obtain ⟨gained, there, more⟩ := exists_count_lt (Nat.le_of_eq length) fun perm => apart perm.symm
  exact ⟨lost, gained, List.count_pos_iff.2 ((same lost).1 here), less,
    List.count_pos_iff.2 ((same gained).2 there), more⟩

/-- **Which translations pass:** `keepsPlaceholders source translation` holds of those with as many
`spellings` as the source in which the same ones occur. All whose spellings are a permutation of
the source's are among them. In any other, one placeholder of the source occurs less often, though
it still does, and another one more often; so there is no other if in one of the texts no
placeholder occurs twice, or if there is only one. -/
theorem keepsPlaceholders_cases (source translation : String) :
    (keepsPlaceholders source translation = true ↔
      (spellings source).length = (spellings translation).length ∧
        ∀ text, text ∈ spellings source ↔ text ∈ spellings translation) ∧
    ((spellings source).Perm (spellings translation) → keepsPlaceholders source translation = true) ∧
    (keepsPlaceholders source translation = true → ¬(spellings source).Perm (spellings translation) →
      ∃ lost gained, 0 < (spellings translation).count lost ∧
        (spellings translation).count lost < (spellings source).count lost ∧
        0 < (spellings source).count gained ∧
        (spellings source).count gained < (spellings translation).count gained) ∧
    (keepsPlaceholders source translation = true →
      ((spellings source).Nodup ∨ (spellings translation).Nodup ∨
        ∃ only, ∀ text ∈ spellings source, text = only) →
      (spellings source).Perm (spellings translation)) := by
  refine ⟨keepsPlaceholders_eq_true_iff, fun perm => ?_, exists_lost_gained, fun passes known => ?_⟩
  · exact keepsPlaceholders_eq_true_iff.2 ⟨perm.length_eq, fun text => perm.mem_iff⟩
  · by_contra apart
    obtain ⟨lost, gained, kept, less, held, more⟩ := exists_lost_gained passes apart
    rcases known with once | once | ⟨only, all⟩
    · have bound := List.nodup_iff_count_le_one.1 once lost
      omega
    · have bound := List.nodup_iff_count_le_one.1 once gained
      omega
    · -- the one that is lost is the one that is gained
      obtain rfl := all lost (List.count_pos_iff.1 (Nat.lt_trans kept less))
      obtain rfl := all gained (List.count_pos_iff.1 held)
      omega

/-- A translation in which the placeholders stand in another order: the numbered ones and the fields may
do so, and none of them is lost. -/
theorem keepsPlaceholders_cases_reordered :
    keepsPlaceholders "%1$s of %2$d (\x7b0\x7d)" "(\x7b0\x7d) %2$d de %1$s" = true ∧
      (spellings "%1$s of %2$d (\x7b0\x7d)").Perm (spellings "(\x7b0\x7d) %2$d de %1$s") := by
  obtain ⟨passes, -, -, kept⟩ := keepsPlaceholders_cases "%1$s of %2$d (\x7b0\x7d)"
    "(\x7b0\x7d) %2$d de %1$s"
  have same : keepsPlaceholders "%1$s of %2$d (\x7b0\x7d)" "(\x7b0\x7d) %2$d de %1$s" = true := by
    decide +kernel
  exact ⟨same, kept same (.inl (by decide +kernel))⟩

/-- A placeholder that stands twice is lost in one place for another one: nothing is reported. -/
theorem keepsPlaceholders_cases_repeated :
    let source := "\x7b0\x7d \x7b0\x7d \x7b1\x7d"
    let translation := "\x7b0\x7d \x7b1\x7d \x7b1\x7d"
    mismatches source translation = [] ∧ keepsPlaceholders source translation = true ∧
      ¬(spellings source).Perm (spellings translation) := by
  decide +kernel

end StringCatalog
