import InlineLinkage.Proofs.OneLine
import InlineLinkage.Proofs.QualifierWords
import InlineLinkage.Proofs.SettingTexts
import InlineLinkage.Proofs.TokenGrammar
import InlineLinkage.Proofs.WordSets

/-!
# What a progress line shows

A progress line is the index, four words for the case, the verdict and a word for each warning. A column that
is too narrow only makes the line longer, so the words between the blanks are found again at any length, and
each of them is written for one value only.
-/
namespace InlineLinkage

namespace Text

theorem words_blanks_append {bs : List Char} (h : ∀ c ∈ bs, isBlank c = true) (s : List Char) :
    words (bs ++ s) = words s := by
  induction bs with
  | nil => rfl
  | cons b bs ih =>
    obtain ⟨hb, hbs⟩ := List.forall_mem_cons.mp h
    rw [List.cons_append, words_blank hb, ih hbs]

theorem IsWord.words_append_blanks {w bs : List Char} (hw : IsWord w)
    (h : ∀ c ∈ bs, isBlank c = true) : words (w ++ bs) = [w] := by
  cases bs with
  | nil => rw [List.append_nil, hw.words_eq]
  | cons b bs =>
    obtain ⟨hb, hbs⟩ := List.forall_mem_cons.mp h
    have hrest := words_blanks_append hbs []
    rw [List.append_nil, words_nil] at hrest
    rw [hw.words_append hb, hrest]

theorem isBlank_space : isBlank ' ' = true := by
  decide

theorem isBlank_of_mem_padding {n : ℕ} {c : Char} (hc : c ∈ List.replicate n ' ') :
    isBlank c = true := by
  rw [List.eq_of_mem_replicate hc, isBlank_space]

/-- A word is found again in its column, also when it is longer. -/
theorem IsWord.words_padRight {w : List Char} (hw : IsWord w) (width : ℕ) :
    words (padRight width w) = [w] :=
  hw.words_append_blanks fun _ => isBlank_of_mem_padding

theorem IsWord.words_padLeft {w : List Char} (hw : IsWord w) (width : ℕ) :
    words (padLeft width w) = [w] := by
  rw [padLeft, words_blanks_append fun _ => isBlank_of_mem_padding, hw.words_eq]

theorem isWord_natChars (n : ℕ) : IsWord (natChars n) where
  ne_nil := natChars_ne_nil n
  not_blank := fun c hc => by
    have hdigit := toNat_of_isDigit (isDigit_of_mem_natChars hc)
    exact isBlank_eq_false (by omega) (by omega)

theorem natChars_injective : Function.Injective natChars :=
  Function.LeftInverse.injective ofDigitChars_natChars

end Text

open Text

theorem Qualifier.letter_injective : Function.Injective Qualifier.letter := by
  have h : ∀ q q' : Qualifier, q.letter = q'.letter → q = q' := by decide
  exact h

namespace Qualifiers

theorem summary_injective : Function.Injective Qualifiers.summary :=
  List.map_injective_iff.mpr Qualifier.letter_injective

theorem forall_mem_summary {P : Char → Prop} (h : ∀ q : Qualifier, P q.letter) (qs : Qualifiers) :
    ∀ c ∈ qs.summary, P c :=
  List.forall_mem_map.mpr fun q _ => h q

end Qualifiers

namespace Declarations

/-- What the summary shows of a forward declaration. -/
def prototypeSummary : Option Qualifiers → List Char
  | some p => p.summary
  | none => ['-']

theorem summary_eq (d : Declarations) :
    d.summary = prototypeSummary d.prototype ++ ';' :: d.definition.summary := by
  unfold summary prototypeSummary
  cases d.prototype <;> rfl

theorem forall_mem_prototypeSummary {P : Char → Prop} (h : ∀ q : Qualifier, P q.letter)
    (hdash : P '-') (prototype : Option Qualifiers) : ∀ c ∈ prototypeSummary prototype, P c := by
  cases prototype with
  | none => exact List.forall_mem_singleton.mpr hdash
  | some p => exact p.forall_mem_summary h

theorem semicolon_not_mem_prototypeSummary (prototype : Option Qualifiers) :
    ';' ∉ prototypeSummary prototype := fun h =>
  forall_mem_prototypeSummary (P := (';' ≠ ·)) (by decide) (by decide) prototype ';' h rfl

/-- No row of letters is the dash. -/
theorem prototypeSummary_injective : Function.Injective prototypeSummary := by
  have hdash (p : Qualifiers) : p.summary ≠ ['-'] := fun h =>
    p.forall_mem_summary (P := ('-' ≠ ·)) (by decide) '-' (by simp [h]) rfl
  intro a b h
  cases a with
  | none =>
    cases b with
    | none => rfl
    | some q => exact absurd h.symm (hdash q)
  | some p =>
    cases b with
    | none => exact absurd h (hdash p)
    | some q => rw [Qualifiers.summary_injective h]

/-- The semicolon parts the letters of both sides. -/
theorem summary_injective : Function.Injective summary := by
  rintro ⟨prototype, definition⟩ ⟨prototype', definition'⟩ h
  rw [summary_eq, summary_eq] at h
  obtain ⟨hprototype, hdefinition⟩ := append_cons_inj (semicolon_not_mem_prototypeSummary _)
    (semicolon_not_mem_prototypeSummary _) h
  obtain rfl : prototype = prototype' := prototypeSummary_injective hprototype
  obtain rfl : definition = definition' := Qualifiers.summary_injective hdefinition
  rfl

theorem isWord_summary (d : Declarations) : IsWord d.summary where
  ne_nil := by simp [summary_eq]
  not_blank := by
    have hletter : ∀ q : Qualifier, isBlank q.letter = false := by decide
    rw [summary_eq]
    refine List.forall_mem_append.mpr ⟨?_, List.forall_mem_cons.mpr ⟨by decide, ?_⟩⟩
    · exact forall_mem_prototypeSummary hletter (by decide) d.prototype
    · exact d.definition.forall_mem_summary hletter

end Declarations

namespace Case

/-- The words of a case, one for each column. -/
def columns (c : Case) : List (List Char) :=
  [c.declarations.summary, c.compiler.name.toList, c.dialect.spelling.toList, c.level.flag.toList]

theorem words_chars (c : Case) : words c.chars = c.columns := by
  have hcompiler : IsWord c.compiler.name.toList := by cases c.compiler <;> decide
  have hdialect : IsWord c.dialect.spelling.toList := by cases c.dialect <;> decide
  have hlevel : IsWord c.level.flag.toList := by cases c.level <;> decide
  rw [chars, words_append_blank isBlank_space, words_append_blank isBlank_space,
    words_append_blank isBlank_space, c.declarations.isWord_summary.words_padRight,
    hcompiler.words_padRight, hdialect.words_padRight, hlevel.words_padRight]
  rfl

theorem columns_injective : Function.Injective columns := by
  rintro ⟨declarations, compiler, dialect, level⟩ ⟨declarations', compiler', dialect', level'⟩ h
  simp only [columns, List.cons.injEq, and_true] at h
  obtain ⟨hdeclarations, hcompiler, hdialect, hlevel⟩ := h
  obtain rfl := Declarations.summary_injective hdeclarations
  obtain rfl := Compiler.nameChars_injective hcompiler
  obtain rfl := Dialect.spellingChars_injective hdialect
  obtain rfl := Level.flag_injective (String.toList_injective hlevel)
  rfl

theorem text_injective : Function.Injective text := by
  intro c c' h
  have hchars : c.chars = c'.chars := String.ofList_injective h
  exact columns_injective (by rw [← words_chars, hchars, words_chars])

end Case

theorem Verdict.isWord_chars : ∀ v : Verdict, IsWord v.chars := by
  decide

theorem Verdict.chars_injective : Function.Injective Verdict.chars := by
  have h : ∀ v v' : Verdict, v.chars = v'.chars → v = v' := by decide
  exact h

namespace Warning

/-- A warning after its sign. -/
def signed (w : Warning) : List Char :=
  '+' :: w.name.toList

theorem isWord_signed (w : Warning) : IsWord w.signed := by
  cases w <;> decide

theorem signed_injective : Function.Injective signed := by
  intro w w' h
  have hname : w.name = w'.name := String.toList_injective (List.cons.inj h).2
  exact Option.some.inj (by rw [← ofName?_name w, hname, ofName?_name])

end Warning

namespace Outcome

/-- The words of an outcome. -/
def columns (o : Outcome) : List (List Char) :=
  o.verdict.chars :: o.warnings.toList.map Warning.signed

theorem chars_eq_unwords (o : Outcome) : o.chars = unwords o.columns := by
  obtain ⟨verdict, warnings⟩ := o
  simp only [chars, columns]
  generalize warnings.toList = ws
  generalize verdict.chars = word
  induction ws generalizing word with
  | nil => simp [unwords]
  | cons w ws ih =>
    have hjoin : unwords (word :: (w :: ws).map Warning.signed) =
      word ++ ' ' :: unwords (w.signed :: ws.map Warning.signed) := rfl
    rw [hjoin, ← ih]
    simp [Warning.signed]

theorem words_chars (o : Outcome) : words o.chars = o.columns := by
  rw [chars_eq_unwords, words_unwords]
  exact List.forall_mem_cons.mpr ⟨o.verdict.isWord_chars,
    List.forall_mem_map.mpr fun w _ => w.isWord_signed⟩

theorem columns_injective : Function.Injective columns := by
  rintro ⟨verdict, warnings⟩ ⟨verdict', warnings'⟩ h
  obtain ⟨hverdict, hwarnings⟩ := List.cons.inj h
  have hlist : warnings.toList = warnings'.toList :=
    List.map_injective_iff.mpr Warning.signed_injective hwarnings
  obtain rfl : verdict = verdict' := Verdict.chars_injective hverdict
  obtain rfl : warnings = warnings' := by
    rw [← Warnings.ofList_toList warnings, ← Warnings.ofList_toList warnings', hlist]
  rfl

end Outcome

theorem newline_not_mem_progressChars (i : ℕ) (c : Case) (o : Outcome) :
    '\n' ∉ progressChars i c o := by
  have hspace : '\n' ≠ ' ' := by decide
  simp only [progressChars, List.mem_append, List.mem_cons, not_or]
  exact ⟨⟨newline_not_mem_padLeft (newline_not_mem_natChars i) 6, hspace, c.newline_not_mem_chars⟩,
    hspace, o.newline_not_mem_chars⟩

theorem words_progressChars (i : ℕ) (c : Case) (o : Outcome) :
    words (progressChars i c o) = natChars i :: (c.columns ++ o.columns) := by
  rw [progressChars, words_append_blank isBlank_space, words_append_blank isBlank_space,
    (isWord_natChars i).words_padLeft, c.words_chars, o.words_chars]
  rfl

/-- A summary that is longer than its column pushes the other columns to the right. -/
example : progressChars 7
    ⟨⟨none, List.replicate 14 .inlineKeyword⟩, .gcc, .c99, .o2⟩ ⟨.success .linkOnceEither, .none⟩ =
      "     7 -;iiiiiiiiiiiiii gcc   c99     -O2 success(link_once_either)".toList := by
  decide

theorem progressChars_inj {i j : ℕ} {c c' : Case} {o o' : Outcome} :
    progressChars i c o = progressChars j c' o' ↔ i = j ∧ c = c' ∧ o = o' := by
  constructor
  · intro h
    have hwords := congrArg words h
    rw [words_progressChars, words_progressChars] at hwords
    obtain ⟨hindex, hcolumns⟩ := List.cons.inj hwords
    obtain ⟨hcase, houtcome⟩ := List.append_inj hcolumns rfl
    exact ⟨natChars_injective hindex, Case.columns_injective hcase,
      Outcome.columns_injective houtcome⟩
  · rintro ⟨rfl, rfl, rfl⟩
    rfl

/-- A progress line stays on its line, and it belongs to one index, one case and one outcome. The text of a
case alone belongs to one case, at any number of qualifiers, and a missing forward declaration never looks
like one that is there, with qualifiers or without. -/
theorem progress_line_determines_case :
    (∀ (i : ℕ) (c : Case) (o : Outcome), '\n' ∉ progressChars i c o) ∧
      (∀ (i j : ℕ) (c c' : Case) (o o' : Outcome),
        progressChars i c o = progressChars j c' o' ↔ i = j ∧ c = c' ∧ o = o') ∧
      (∀ c c' : Case, c.text = c'.text ↔ c = c') ∧
      ∀ (p q q' : Qualifiers) (k k' : Compiler) (d d' : Dialect) (l l' : Level),
        Case.text ⟨⟨none, q⟩, k, d, l⟩ ≠ Case.text ⟨⟨some p, q'⟩, k', d', l'⟩ := by
  refine ⟨newline_not_mem_progressChars, fun _ _ _ _ _ _ => progressChars_inj,
    fun _ _ => Case.text_injective.eq_iff, fun p q q' k k' d d' l l' h => ?_⟩
  have hcase := Case.text_injective h
  simp only [Case.mk.injEq, Declarations.mk.injEq, reduceCtorEq, false_and] at hcase

end InlineLinkage
