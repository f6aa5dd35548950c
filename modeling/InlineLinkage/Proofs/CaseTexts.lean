import InlineLinkage.Case
import Mathlib.Tactic

/-!
# Texts of qualifiers and settings

Qualifiers are written as words with single spaces and read back one by one, in order and with every
repetition. The texts of the settings are read back as well.
-/
namespace InlineLinkage

namespace Text

/-- A word has characters, and none of them is a blank. -/
structure IsWord (w : List Char) : Prop where
  ne_nil : w ≠ []
  not_blank : ∀ c ∈ w, isBlank c = false

instance (w : List Char) : Decidable (IsWord w) :=
  decidable_of_iff ((!w.isEmpty && w.all fun c => !isBlank c) = true) <| by
    simp only [Bool.and_eq_true, Bool.not_eq_true', List.isEmpty_eq_false_iff, List.all_eq_true]
    exact ⟨fun h => ⟨h.1, h.2⟩, fun h => ⟨h.ne_nil, h.not_blank⟩⟩

/-- Characters that are no blanks belong to the current word. -/
theorem wordsFrom_append {s : List Char} (hs : ∀ c ∈ s, isBlank c = false) (word t : List Char) :
    wordsFrom word (s ++ t) = wordsFrom (s.reverse ++ word) t := by
  induction s generalizing word with
  | nil => rfl
  | cons c s ih =>
    obtain ⟨hc, hs⟩ := List.forall_mem_cons.mp hs
    rw [List.cons_append, wordsFrom, if_neg (by simp [hc]), ih hs, List.reverse_cons,
      List.append_assoc, List.singleton_append]

theorem IsWord.words_eq {w : List Char} (hw : IsWord w) : words w = [w] := by
  have hne : w.reverse ≠ [] := List.reverse_ne_nil_iff.mpr hw.ne_nil
  have hread := wordsFrom_append hw.not_blank [] []
  rw [List.append_nil, List.append_nil] at hread
  rw [words, hread, wordsFrom, if_neg hne, List.reverse_reverse]

theorem IsWord.words_append {w : List Char} (hw : IsWord w) {c : Char} (hc : isBlank c = true)
    (s : List Char) : words (w ++ c :: s) = w :: words s := by
  have hne : w.reverse ≠ [] := List.reverse_ne_nil_iff.mpr hw.ne_nil
  rw [words, wordsFrom_append hw.not_blank, List.append_nil, wordsFrom, if_pos hc, if_neg hne,
    List.reverse_reverse, words]

/-- Words are found again after they were joined. -/
theorem words_unwords {ws : List (List Char)} (h : ∀ w ∈ ws, IsWord w) : words (unwords ws) = ws := by
  induction ws with
  | nil => rfl
  | cons w ws ih =>
    obtain ⟨hw, hws⟩ := List.forall_mem_cons.mp h
    cases ws with
    | nil => exact hw.words_eq
    | cons w' ws =>
      have hjoin : unwords (w :: w' :: ws) = w ++ ' ' :: unwords (w' :: ws) := rfl
      rw [hjoin, hw.words_append (by decide), ih hws]

end Text

open Text

theorem Qualifier.isWord_spelling (q : Qualifier) : IsWord q.spelling.toList := by
  cases q <;> decide

namespace Qualifiers

theorem ofWords_spellings (qs : Qualifiers) :
    ofWords (qs.map fun q => q.spelling.toList) = .ok qs := by
  induction qs with
  | nil => rfl
  | cons q qs ih =>
    rw [List.map_cons, ofWords, Qualifier.ofWord, Qualifier.ofSpelling?_spelling, ih]

/-- Qualifiers are read back from their text. -/
theorem ofText_text (qs : Qualifiers) : ofText qs.text = .ok qs := by
  have hwords : ∀ w ∈ qs.map fun q => q.spelling.toList, IsWord w :=
    List.forall_mem_map.mpr fun q _ => q.isWord_spelling
  rw [ofText, text, String.toList_ofList, chars, words_unwords hwords, ofWords_spellings]

end Qualifiers

theorem Declarations.ofTexts_text (d : Declarations) :
    ofTexts (d.prototype.map Qualifiers.text) d.definition.text = .ok d := by
  obtain ⟨prototype, definition⟩ := d
  cases prototype with
  | none =>
    simp only [ofTexts, Option.map_none, Qualifiers.ofText_text]
    rfl
  | some p =>
    simp only [ofTexts, Option.map_some, Qualifiers.ofText_text]
    rfl

theorem Dialect.ofText_spelling (d : Dialect) : ofText d.spelling = .ok d := by
  cases d <;> decide

theorem Level.ofText_flag (l : Level) : ofText l.flag = .ok l := by
  cases l <;> decide

theorem Compiler.ofText_name (k : Compiler) : ofText k.name = .ok k := by
  cases k <;> decide

end InlineLinkage
