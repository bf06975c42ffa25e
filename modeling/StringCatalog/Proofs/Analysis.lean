import Mathlib.Data.List.ReduceOption
import StringCatalog.Proofs.Extraction.Found
import StringCatalog.Proofs.Placeholder.Comparison

/-! # When a string has no errors

A string is compared form by form, the plural with the singular and each translation with one of the
two. What is found is an error only where placeholders differ in number or kind:

* **`AgreeInPlaceholders`** — two texts with as many placeholders and the same ones.
* **`Translatable.texts`** — all forms of a string, the translated ones included.
* **`allTranslationFindings?_map_some`** — each translation is compared with its source, however many
  there are.
* **`findings?_verdict`** — a string has no errors just where any two of its forms agree. -/

namespace StringCatalog

/-! ## Agreement -/

/-- **Two texts agree in their placeholders** if they have as many of them and the same ones occur. -/
def AgreeInPlaceholders (first second : String) : Prop :=
  (spellings first).length = (spellings second).length ∧
    ∀ text, text ∈ spellings first ↔ text ∈ spellings second

namespace AgreeInPlaceholders

variable {first second third : String}

/-- A text agrees with itself. -/
theorem refl (text : String) : AgreeInPlaceholders text text :=
  ⟨rfl, fun _ => Iff.rfl⟩

/-- `AgreeInPlaceholders first second` is symmetric: both directions ask for the same totals and
sets. -/
theorem symm (h : AgreeInPlaceholders first second) : AgreeInPlaceholders second first :=
  ⟨h.1.symm, fun text => (h.2 text).symm⟩

/-- `AgreeInPlaceholders` is transitive. -/
theorem trans (one : AgreeInPlaceholders first second) (other : AgreeInPlaceholders second third) :
    AgreeInPlaceholders first third :=
  ⟨one.1.trans other.1, fun text => (one.2 text).trans (other.2 text)⟩

end AgreeInPlaceholders

/-! ## Forms -/

namespace Translatable

/-- **All forms of a string:** the singular, the plural if there is one, and all translations that are
not open. -/
def texts (string : Translatable) : List String :=
  string.sources ++ (string.translations.getD []).reduceOption

/-- Of closed forms none is left out. -/
theorem IsClosed.map_some {string : Translatable} (h : string.IsClosed) :
    (string.translations.getD []).reduceOption.map some = string.translations.getD [] := by
  unfold IsClosed at h
  generalize string.translations.getD [] = forms at h ⊢
  induction forms with
  | nil => rfl
  | cons form forms ih =>
      rw [List.mem_cons, not_or] at h
      obtain ⟨text, rfl⟩ := Option.ne_none_iff_exists'.1 (Ne.symm h.1)
      rw [List.reduceOption_cons_of_some, List.map_cons, ih h.2]

/-- The source of a translation is one of the untranslated forms. -/
theorem sourceOf_mem_sources (string : Translatable) (index : Nat) :
    sourceOf string index ∈ string.sources := by
  unfold sourceOf sources
  split
  · exact List.mem_cons_self
  split
  · next plural there =>
    -- an empty plural gives way to the singular
    split
    · exact List.mem_cons_self
    · simp [there]
  · exact List.mem_cons_self

end Translatable

/-! ## Findings -/

/-- **Findings none of which is an error:** `∀ finding ∈ findings, finding.severity ≠ .error`. -/
def AreNoErrors (findings : List Finding) : Prop :=
  ∀ finding ∈ findings, finding.severity ≠ .error

/-- `AreNoErrors []`: where nothing is found there is no error. -/
@[simp] theorem areNoErrors_nil : AreNoErrors [] := by simp [AreNoErrors]

/-- `AreNoErrors (first ++ second) ↔ AreNoErrors first ∧ AreNoErrors second`. -/
@[simp] theorem areNoErrors_append {first second : List Finding} :
    AreNoErrors (first ++ second) ↔ AreNoErrors first ∧ AreNoErrors second :=
  List.forall_mem_append

/-- **A translation without errors** agrees with its source: all other findings on it are warnings. -/
theorem areNoErrors_translationFindings {source translation : String} :
    AreNoErrors (translationFindings source translation) ↔
      AgreeInPlaceholders source translation := by
  have critical (mismatch : Mismatch) :
      (Finding.translation mismatch).severity ≠ .error ↔ mismatch.severity ≠ .critical := by
    cases mismatch <;> simp [Finding.severity, Mismatch.severity]
  have kept : AreNoErrors ((mismatches source translation).map Finding.translation) ↔
      keepsPlaceholders source translation = true := by
    rw [AreNoErrors, List.forall_mem_map, keepsPlaceholders, List.all_eq_true]
    simp only [critical, bne_iff_ne]
  rw [translationFindings, areNoErrors_append, kept, keepsPlaceholders_eq_true_iff]
  refine and_iff_left ?_
  intro finding member
  split at member
  · cases member
  · obtain rfl := List.mem_singleton.1 member
    exact Finding.Severity.noConfusion

/-- The forms of a string are without errors if the plural agrees with the singular. -/
theorem areNoErrors_formFindings {string : Translatable} :
    AreNoErrors (formFindings string) ↔
      ∀ form ∈ string.sources, AgreeInPlaceholders string.singular form := by
  unfold formFindings Translatable.sources
  cases string.plural with
  | none => simp [AgreeInPlaceholders.refl]
  | some plural =>
      have kept := @keepsPlaceholders_eq_true_iff string.singular plural
      simp only [Option.toList_some, List.forall_mem_cons, AgreeInPlaceholders.refl, true_and,
        List.not_mem_nil, false_implies, implies_true, and_true]
      rw [AgreeInPlaceholders, ← kept]
      split
      · simp [*]
      · simp [*, AreNoErrors, Finding.severity]

/-- The remarks on the untranslated text alone are no errors. -/
theorem areNoErrors_sourceFindings (string : Translatable) :
    AreNoErrors (sourceFindings string) := by
  unfold sourceFindings
  dsimp only
  rw [areNoErrors_append, areNoErrors_append]
  refine ⟨⟨?_, ?_⟩, ?_⟩
  all_goals split <;> simp [AreNoErrors, Finding.severity]

/-- **Each translation is compared with its source,** however many there are. -/
theorem allTranslationFindings?_map_some (string : Translatable) (index : Nat) (texts : List String) :
    allTranslationFindings? string index (texts.map some) =
      some ((texts.zipIdx index).flatMap fun (text, place) =>
        translationFindings (sourceOf string place) text) := by
  induction texts generalizing index with
  | nil => rfl
  | cons text texts ih =>
      rw [List.map_cons, allTranslationFindings?, ih, List.zipIdx_cons, List.flatMap_cons]
      rfl

/-- **All findings on a closed string.** -/
theorem findings?_of_isClosed {string : Translatable} (closed : string.IsClosed) :
    findings? string = some (formFindings string ++
      ((string.translations.getD []).reduceOption.zipIdx.flatMap fun (text, place) =>
        translationFindings (sourceOf string place) text) ++ sourceFindings string) := by
  rw [findings?, ← closed.map_some, allTranslationFindings?_map_some, closed.map_some]
  rfl

/-! ## Verdict -/

/-- **A string has no errors just where any two of its forms agree:** `AreNoErrors findings` holds
if and only if any two of `string.texts` satisfy `AgreeInPlaceholders`, in the number of their
placeholders and in which ones occur. It can be checked if none of its translations is open
(`IsClosed`); no translation is left out then, wherever it stands. -/
theorem findings?_verdict {string : Translatable} (closed : string.IsClosed) :
    ∃ findings, findings? string = some findings ∧
      (AreNoErrors findings ↔
        ∀ first ∈ string.texts, ∀ second ∈ string.texts, AgreeInPlaceholders first second) ∧
      ∀ index text, (string.translations.getD [])[index]? = some (some text) →
        translationFindings (sourceOf string index) text ⊆ findings := by
  refine ⟨_, findings?_of_isClosed closed, ⟨fun none => ?_, fun agree => ?_⟩,
    fun index text there => ?_⟩
  · rw [areNoErrors_append, areNoErrors_append, areNoErrors_formFindings] at none
    obtain ⟨⟨forms, translations⟩, -⟩ := none
    -- every form agrees with the singular, translations by way of their sources
    have all (form : String) (member : form ∈ string.texts) :
        AgreeInPlaceholders string.singular form := by
      rcases List.mem_append.1 member with source | translated
      · exact forms form source
      · obtain ⟨index, there⟩ := List.mem_iff_getElem?.1 translated
        have own : AreNoErrors (translationFindings (sourceOf string index) form) :=
          fun finding found => translations finding (List.mem_flatMap.2
            ⟨(form, index), List.mem_zipIdx_iff_getElem?.2 there, found⟩)
        exact (forms _ (string.sourceOf_mem_sources index)).trans
          (areNoErrors_translationFindings.1 own)
    exact fun first one second other => (all first one).symm.trans (all second other)
  · rw [areNoErrors_append, areNoErrors_append, areNoErrors_formFindings]
    refine ⟨⟨fun form member => ?_, ?_⟩, areNoErrors_sourceFindings string⟩
    · exact agree _ (List.mem_append_left _ List.mem_cons_self) _ (List.mem_append_left _ member)
    · refine List.forall_mem_flatMap.2 fun ⟨text, index⟩ member => ?_
      refine areNoErrors_translationFindings.2 (agree _ ?_ _ ?_)
      · exact List.mem_append_left _ (string.sourceOf_mem_sources index)
      · exact List.mem_append_right _ (List.fst_mem_of_mem_zipIdx member)
  · rw [← closed.map_some, List.getElem?_map] at there
    obtain ⟨text, value, same⟩ := Option.map_eq_some_iff.1 there
    obtain rfl := Option.some.inj same
    intro finding found
    refine List.mem_append_left _ (List.mem_append_right _ (List.mem_flatMap.2 ⟨(text, index), ?_, found⟩))
    exact List.mem_zipIdx_iff_getElem?.2 value

/-- A string with a plural and three translations, of which the last one has lost its placeholder. -/
theorem findings?_verdict_third :
    let string : Translatable :=
      { Translatable.ofText "%d file" with
        plural := some "%d files"
        translations := some [some "%d plik", some "%d pliki", some "pliki"] }
    string.IsClosed ∧ ¬ AgreeInPlaceholders "%d file" "pliki" ∧
      ∃ findings, findings? string = some findings ∧ ¬ AreNoErrors findings := by
  intro string
  have closed : string.IsClosed := by simp [Translatable.IsClosed, string]
  have apart : ¬ AgreeInPlaceholders "%d file" "pliki" := fun agree =>
    absurd agree.1 (by decide +kernel)
  obtain ⟨findings, found, verdict, -⟩ := findings?_verdict closed
  exact ⟨closed, apart, findings, found, fun none =>
    apart (verdict.1 none _ (by decide) _ (by decide))⟩

end StringCatalog
