import InlineLinkage.Proofs.CaseTexts

/-!
# The texts that spell qualifiers

A text is blanks and words in turn, in one way only, and its words are its maximal runs of characters that
are no blanks. It spells qualifiers exactly if each of its words does. Otherwise its first word that spells
none is the error, so what is wrong in the first part of a text is found before anything behind it is read.
-/
namespace InlineLinkage

namespace Text

/-- The words stand in the text in this order, with a blank at least between two of them, and nothing else
in it but blanks. -/
inductive Spaced : List (List Char) → List Char → Prop where
  | nil : Spaced [] []
  | blank {c : Char} {s : List Char} {ws : List (List Char)} (hc : isBlank c = true)
      (h : Spaced ws s) : Spaced ws (c :: s)
  | last {w : List Char} (hw : IsWord w) : Spaced [w] w
  | word {w s : List Char} {c : Char} {ws : List (List Char)} (hw : IsWord w)
      (hc : isBlank c = true) (h : Spaced ws s) : Spaced (w :: ws) (w ++ c :: s)

theorem words_blank {c : Char} (hc : isBlank c = true) (s : List Char) : words (c :: s) = words s := by
  rw [words, wordsFrom, if_pos hc, if_pos rfl, words]

theorem Spaced.words_eq {ws : List (List Char)} {s : List Char} (h : Spaced ws s) : words s = ws := by
  induction h with
  | nil => rfl
  | blank hc _ ih => rw [words_blank hc, ih]
  | last hw => exact hw.words_eq
  | word hw hc _ ih => rw [hw.words_append hc, ih]

theorem isWord_reverse {word : List Char} (hne : word ≠ []) (hw : ∀ c ∈ word, isBlank c = false) :
    IsWord word.reverse where
  ne_nil := List.reverse_ne_nil_iff.mpr hne
  not_blank := fun c hc => hw c (List.mem_reverse.mp hc)

/-- The current word stands before the text that is still to be read. -/
theorem spaced_wordsFrom {word : List Char} (hw : ∀ c ∈ word, isBlank c = false) (s : List Char) :
    Spaced (wordsFrom word s) (word.reverse ++ s) := by
  induction s generalizing word with
  | nil =>
    rw [wordsFrom, List.append_nil]
    by_cases hne : word = []
    · subst hne
      exact .nil
    · rw [if_neg hne]
      exact .last (isWord_reverse hne hw)
  | cons c s ih =>
    by_cases hc : isBlank c = true
    · have hrest : Spaced (wordsFrom [] s) s := ih (List.forall_mem_nil _)
      rw [wordsFrom, if_pos hc]
      by_cases hne : word = []
      · subst hne
        exact .blank hc hrest
      · rw [if_neg hne]
        exact .word (isWord_reverse hne hw) hc hrest
    · have hrest := ih (List.forall_mem_cons.mpr ⟨Bool.eq_false_iff.mpr hc, hw⟩)
      rw [List.reverse_cons, List.append_assoc, List.singleton_append] at hrest
      rwa [wordsFrom, if_neg hc]

theorem spaced_words (s : List Char) : Spaced (words s) s :=
  spaced_wordsFrom (List.forall_mem_nil _) s

/-- A text is cut into words in one way. -/
theorem spaced_iff {ws : List (List Char)} {s : List Char} : Spaced ws s ↔ words s = ws := by
  constructor
  · exact Spaced.words_eq
  · rintro rfl
    exact spaced_words s

theorem Spaced.append {ws ws' : List (List Char)} {s t : List Char} {c : Char} (h : Spaced ws s)
    (hc : isBlank c = true) (h' : Spaced ws' t) : Spaced (ws ++ ws') (s ++ c :: t) := by
  induction h with
  | nil => exact .blank hc h'
  | blank hb _ ih => exact .blank hb ih
  | last hw => exact .word hw hc h'
  | word hw hb _ ih =>
    rw [List.append_assoc, List.cons_append]
    exact .word hw hb ih

/-- A blank parts the words before it from those after it. -/
theorem words_append_blank {c : Char} (hc : isBlank c = true) (s t : List Char) :
    words (s ++ c :: t) = words s ++ words t :=
  ((spaced_words s).append hc (spaced_words t)).words_eq

/-- A word in a text that cannot be made longer on either side. -/
structure IsRun (left w right : List Char) : Prop where
  isWord : IsWord w
  left_blank : ∀ c, left.getLast? = some c → isBlank c = true
  right_blank : ∀ c, right.head? = some c → isBlank c = true

theorem Spaced.exists_run {ws : List (List Char)} {s w : List Char} (h : Spaced ws s) (hw : w ∈ ws) :
    ∃ left right, s = left ++ w ++ right ∧ IsRun left w right := by
  have hlast {b : Char} (hb : isBlank b = true) {left : List Char}
      (hleft : ∀ c, left.getLast? = some c → isBlank c = true) (c : Char)
      (hc : (b :: left).getLast? = some c) : isBlank c = true := by
    cases left with
    | nil =>
      cases hc
      exact hb
    | cons d left => exact hleft c (by rwa [List.getLast?_cons_cons] at hc)
  induction h with
  | nil => cases hw
  | @blank b _ _ hb _ ih =>
    obtain ⟨left, right, rfl, hrun⟩ := ih hw
    exact ⟨b :: left, right, rfl, hrun.isWord, hlast hb hrun.left_blank, hrun.right_blank⟩
  | @last v hv =>
    obtain rfl := List.mem_singleton.mp hw
    exact ⟨[], [], by simp, hv, by simp, by simp⟩
  | @word v s b ws hv hb _ ih =>
    obtain rfl | hw := List.mem_cons.mp hw
    · refine ⟨[], b :: s, by simp, hv, by simp, ?_⟩
      rintro c hc
      cases hc
      exact hb
    · obtain ⟨left, right, rfl, hrun⟩ := ih hw
      refine ⟨v ++ b :: left, right, by simp, hrun.isWord, ?_, hrun.right_blank⟩
      intro c hc
      rw [List.getLast?_append_cons] at hc
      exact hlast hb hrun.left_blank c hc

theorem IsRun.mem_words {left w right : List Char} (h : IsRun left w right) :
    w ∈ words (left ++ w ++ right) := by
  have hhere : w ∈ words (w ++ right) := by
    cases right with
    | nil =>
      rw [List.append_nil, h.isWord.words_eq]
      exact List.mem_cons_self
    | cons c right =>
      rw [h.isWord.words_append (h.right_blank c rfl)]
      exact List.mem_cons_self
  obtain rfl | ⟨init, c, rfl⟩ := List.eq_nil_or_concat' left
  · exact hhere
  · have hc : isBlank c = true := h.left_blank c (by simp)
    rw [List.append_assoc, List.append_assoc, List.singleton_append, words_append_blank hc]
    exact List.mem_append_right _ hhere

/-- The words of a text are its maximal runs. -/
theorem mem_words_iff {s w : List Char} :
    w ∈ words s ↔ ∃ left right, s = left ++ w ++ right ∧ IsRun left w right := by
  constructor
  · exact (spaced_words s).exists_run
  · rintro ⟨left, right, rfl, h⟩
    exact h.mem_words

theorem unwords_eq_intercalate (ws : List (List Char)) : unwords ws = [' '].intercalate ws := by
  induction ws with
  | nil => rfl
  | cons w ws ih =>
    cases ws with
    | nil => rw [List.intercalate_singleton, unwords]
    | cons v ws =>
      have hjoin : unwords (w :: v :: ws) = w ++ ' ' :: unwords (v :: ws) := rfl
      rw [hjoin, ih, List.intercalate_cons_cons, List.append_assoc, List.singleton_append]

end Text

open Text

namespace Qualifier

def IsSpelling (word : List Char) : Prop :=
  ∃ q : Qualifier, q.spelling.toList = word

theorem ofWord_spelling (q : Qualifier) : ofWord q.spelling.toList = .ok q := by
  rw [ofWord, ofSpelling?_spelling]

theorem ofWord_of_not_spelling {word : List Char} (h : ¬ IsSpelling word) :
    ofWord word = .error ⟨String.ofList word⟩ := by
  have hnone : ofSpelling? word = none := by
    rw [Option.eq_none_iff_forall_ne_some]
    exact fun q hq => h ⟨q, spelling_of_ofSpelling? hq⟩
  rw [ofWord, hnone]

end Qualifier

namespace Qualifiers

open Qualifier (IsSpelling ofWord_spelling ofWord_of_not_spelling)

/-- The first word of a row that spells no qualifier. -/
def FirstUnknown (ws : List (List Char)) (word : List Char) : Prop :=
  ∃ before after, ws = before ++ word :: after ∧ (∀ w ∈ before, IsSpelling w) ∧ ¬ IsSpelling word

/-- A row is one of spellings, or it has a first word that is none. -/
theorem spellings_or_firstUnknown (ws : List (List Char)) :
    (∃ qs : Qualifiers, ws = qs.map fun q => q.spelling.toList) ∨ ∃ word, FirstUnknown ws word := by
  induction ws with
  | nil => exact .inl ⟨[], rfl⟩
  | cons w ws ih =>
    by_cases hw : IsSpelling w
    · obtain ⟨qs, rfl⟩ | ⟨word, before, after, rfl, hbefore, hword⟩ := ih
      · obtain ⟨q, rfl⟩ := hw
        exact .inl ⟨q :: qs, rfl⟩
      · exact .inr ⟨word, w :: before, after, rfl, List.forall_mem_cons.mpr ⟨hw, hbefore⟩, hword⟩
    · exact .inr ⟨w, [], ws, rfl, List.forall_mem_nil _, hw⟩

theorem ofWords_append (ws ws' : List (List Char)) :
    ofWords (ws ++ ws') =
      match ofWords ws, ofWords ws' with
      | .error e, _ => .error e
      | .ok _, .error e => .error e
      | .ok p, .ok q => .ok (p ++ q) := by
  induction ws with
  | nil =>
    rw [List.nil_append, ofWords]
    cases ofWords ws' <;> rfl
  | cons w ws ih =>
    rw [List.cons_append, ofWords, ofWords, ih]
    cases Qualifier.ofWord w with
    | error e => rfl
    | ok q => cases ofWords ws <;> cases ofWords ws' <;> rfl

theorem ofWords_of_firstUnknown {ws : List (List Char)} {word : List Char} (h : FirstUnknown ws word) :
    ofWords ws = .error ⟨String.ofList word⟩ := by
  obtain ⟨before, after, rfl, hbefore, hword⟩ := h
  obtain ⟨qs, rfl⟩ : ∃ qs : Qualifiers, before = qs.map fun q => q.spelling.toList :=
    (spellings_or_firstUnknown before).resolve_right fun ⟨w, left, right, hs, _, hw⟩ =>
      hw (hbefore w (by rw [hs]; simp))
  rw [ofWords_append, ofWords_spellings, ofWords, ofWord_of_not_spelling hword]

theorem ofWords_eq_ok_iff {ws : List (List Char)} {qs : Qualifiers} :
    ofWords ws = .ok qs ↔ ws = qs.map fun q => q.spelling.toList := by
  constructor
  · intro h
    obtain ⟨p, rfl⟩ | ⟨word, hword⟩ := spellings_or_firstUnknown ws
    · rw [ofWords_spellings] at h
      cases h
      rfl
    · rw [ofWords_of_firstUnknown hword] at h
      cases h
  · rintro rfl
    exact ofWords_spellings qs

theorem ofWords_eq_error_iff {ws : List (List Char)} {e : UnknownQualifier} :
    ofWords ws = .error e ↔ FirstUnknown ws e.word.toList := by
  constructor
  · intro h
    obtain ⟨p, rfl⟩ | ⟨word, hword⟩ := spellings_or_firstUnknown ws
    · rw [ofWords_spellings] at h
      cases h
    · rw [ofWords_of_firstUnknown hword] at h
      cases h
      rwa [String.toList_ofList]
  · intro h
    rw [ofWords_of_firstUnknown h, String.ofList_toList]

theorem ofText_eq {s : String} {ws : List (List Char)} (h : Spaced ws s.toList) :
    ofText s = ofWords ws := by
  rw [ofText, h.words_eq]

/-- A text is read if each of its words spells a qualifier, and only then. -/
theorem ofText_ok_iff {s : String} {ws : List (List Char)} (h : Spaced ws s.toList) :
    (∃ qs, ofText s = .ok qs) ↔ ∀ w ∈ ws, IsSpelling w := by
  simp only [ofText_eq h, ofWords_eq_ok_iff]
  constructor
  · rintro ⟨qs, rfl⟩
    exact List.forall_mem_map.mpr fun q _ => ⟨q, rfl⟩
  · intro hall
    refine (spellings_or_firstUnknown ws).resolve_right ?_
    rintro ⟨word, before, after, rfl, -, hword⟩
    exact hword (hall word (by simp))

/-- Every text is cut into words in one way, and these are its maximal runs of characters that are no
blanks. It is read if each run is one of the six spellings, as the row of these words with their order and
repetitions, and otherwise the first word that is none is the error. What was read is written as the words
with single spaces, and every row is read back from its text. A text of two parts with a blank between them
is read as both rows together, or it has the error of the first part that has one. -/
theorem reads_maximal_runs :
    (∀ s : String, ∃! ws, Spaced ws s.toList) ∧
      (∀ (s : String) (ws : List (List Char)), Spaced ws s.toList →
        (∀ qs, ofText s = .ok qs ↔ ws = qs.map fun q => q.spelling.toList) ∧
          (∀ e, ofText s = .error e ↔ FirstUnknown ws e.word.toList) ∧
          ∀ qs, ofText s = .ok qs → qs.chars = [' '].intercalate ws) ∧
      (∀ s : String, (∃ qs, ofText s = .ok qs) ↔
        ∀ left w right, s.toList = left ++ w ++ right → IsRun left w right → IsSpelling w) ∧
      (∀ qs : Qualifiers, ofText qs.text = .ok qs) ∧
      ∀ (a b : String) (c : Char), isBlank c = true →
        ofText (a.push c ++ b) =
          match ofText a, ofText b with
          | .error e, _ => .error e
          | .ok _, .error e => .error e
          | .ok p, .ok q => .ok (p ++ q) := by
  refine ⟨fun s => ?_, fun s ws h => ⟨fun qs => ?_, fun e => ?_, fun qs hqs => ?_⟩, fun s => ?_,
    ofText_text, fun a b c hc => ?_⟩
  · exact ⟨words s.toList, spaced_words _, fun ws h => h.words_eq.symm⟩
  · rw [ofText_eq h, ofWords_eq_ok_iff]
  · rw [ofText_eq h, ofWords_eq_error_iff]
  · rw [ofText_eq h, ofWords_eq_ok_iff] at hqs
    rw [chars, unwords_eq_intercalate, hqs]
  · rw [ofText_ok_iff (spaced_words s.toList)]
    constructor
    · intro h left w right hs hrun
      exact h w (mem_words_iff.mpr ⟨left, right, hs, hrun⟩)
    · intro h w hw
      obtain ⟨left, right, hs, hrun⟩ := mem_words_iff.mp hw
      exact h left w right hs hrun
  · have hchars : (a.push c ++ b).toList = a.toList ++ c :: b.toList := by
      rw [String.toList_append, String.toList_push, List.append_assoc, List.singleton_append]
    rw [ofText, hchars, words_append_blank hc, ofWords_append]
    rfl

/-- Blanks of several kinds, and a word that is wrong in the second part only. -/
theorem reads_maximal_runs_mixed :
    let a := "\u00a0static  inline"
    let ws := ["static".toList, "inline".toList]
    Spaced ws a.toList ∧ ofText a = .ok [.staticStorage, .inlineKeyword] ∧
      isBlank '\u2003' = true ∧
      ofText (a.push '\u2003' ++ "extern register auto") = .error ⟨"register"⟩ := by
  intro a ws
  have hws : Spaced ws a.toList := spaced_iff.mpr (by decide)
  have hc : isBlank '\u2003' = true := by decide
  obtain ⟨-, hread, -, -, hparts⟩ := reads_maximal_runs
  have ha : ofText a = .ok [.staticStorage, .inlineKeyword] := ((hread a ws hws).1 _).mpr rfl
  have hb : ofText "extern register auto" = .error ⟨"register"⟩ := by decide
  refine ⟨hws, ha, hc, ?_⟩
  rw [hparts a _ _ hc, ha, hb]

end Qualifiers

end InlineLinkage
