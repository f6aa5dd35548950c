import InlineLinkage.Text.Blank
import Mathlib.Data.List.TakeWhile
import Mathlib.Tactic

/-!
# Trimmed texts

A text is cut in one way into blanks, a part that neither starts nor ends with a blank, and blanks again.
Trimming leaves the part between.
-/
namespace InlineLinkage.Text

theorem trimLeft_append {left : List Char} (hl : ∀ c ∈ left, isBlank c = true) (s : List Char) :
    trimLeft (left ++ s) = trimLeft s :=
  List.dropWhile_append_of_pos hl

theorem trimLeft_eq_self {s : List Char} (hs : ∀ c, s.head? = some c → isBlank c = false) :
    trimLeft s = s := by
  cases s with
  | nil => rfl
  | cons c s =>
    have hc := hs c rfl
    rw [trimLeft, List.dropWhile_cons_of_neg (by simp [hc])]

theorem not_blank_of_head?_trimLeft {s : List Char} {c : Char} (hc : (trimLeft s).head? = some c) :
    isBlank c = false := by
  have hnot := List.head?_dropWhile_not isBlank s
  rw [trimLeft] at hc
  rw [hc] at hnot
  simpa using hnot

/-- A text is some blanks, its core and blanks again, and the core neither starts nor ends with one. -/
structure IsTrimmed (s core : List Char) : Prop where
  surrounded : ∃ left right, s = left ++ core ++ right ∧ (∀ c ∈ left, isBlank c = true) ∧
    ∀ c ∈ right, isBlank c = true
  head_not_blank : ∀ c, core.head? = some c → isBlank c = false
  last_not_blank : ∀ c, core.getLast? = some c → isBlank c = false

theorem IsTrimmed.trimChars_eq {s core : List Char} (h : IsTrimmed s core) : trimChars s = core := by
  obtain ⟨left, right, rfl, hl, hr⟩ := h.surrounded
  rw [trimChars, List.append_assoc, trimLeft_append hl]
  by_cases hne : core = []
  · subst hne
    have hright := trimLeft_append hr []
    rw [List.append_nil] at hright
    rw [List.nil_append, hright]
    rfl
  · have hleft : trimLeft (core ++ right) = core ++ right := by
      apply trimLeft_eq_self
      intro c hc
      rw [List.head?_append_of_ne_nil core hne] at hc
      exact h.head_not_blank c hc
    have hright : trimLeft (right.reverse ++ core.reverse) = core.reverse := by
      rw [trimLeft_append fun c hc => hr c (List.mem_reverse.mp hc)]
      apply trimLeft_eq_self
      intro c hc
      rw [List.head?_reverse] at hc
      exact h.last_not_blank c hc
    rw [hleft, trimRight, List.reverse_append, hright, List.reverse_reverse]

theorem isTrimmed_trimChars (s : List Char) : IsTrimmed s (trimChars s) := by
  have hleft : s.takeWhile isBlank ++ trimLeft s = s := List.takeWhile_append_dropWhile
  -- The blanks on the right are those at the start of the reversed rest.
  have hback : (trimLeft s).reverse.takeWhile isBlank ++ trimLeft (trimLeft s).reverse =
      (trimLeft s).reverse := List.takeWhile_append_dropWhile
  have hright : trimChars s ++ ((trimLeft s).reverse.takeWhile isBlank).reverse = trimLeft s := by
    rw [trimChars, trimRight, ← List.reverse_append, hback, List.reverse_reverse]
  constructor
  · refine ⟨s.takeWhile isBlank, ((trimLeft s).reverse.takeWhile isBlank).reverse, ?_, ?_, ?_⟩
    · rw [List.append_assoc, hright, hleft]
    · exact fun c hc => List.mem_takeWhile_imp hc
    · exact fun c hc => List.mem_takeWhile_imp (List.mem_reverse.mp hc)
  · intro c hc
    apply not_blank_of_head?_trimLeft (s := s)
    rw [← hright, List.head?_append, hc, Option.some_or]
  · intro c hc
    apply not_blank_of_head?_trimLeft (s := (trimLeft s).reverse)
    rwa [trimChars, trimRight, List.getLast?_reverse] at hc

/-- Trimming is the only way to cut a text like this. -/
theorem isTrimmed_iff {s core : List Char} : IsTrimmed s core ↔ trimChars s = core := by
  constructor
  · exact IsTrimmed.trimChars_eq
  · rintro rfl
    exact isTrimmed_trimChars s

end InlineLinkage.Text
