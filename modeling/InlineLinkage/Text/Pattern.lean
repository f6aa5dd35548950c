/-!
# Line patterns

A pattern is a row of literal characters, `.` for any one character and `.*` for any run of characters.
Neither of the two stands for a line feed. `Matches` says which texts a pattern describes as a whole
from their start, `occurs` decides whether it describes some stretch of a text.
-/
namespace InlineLinkage.Text

inductive PatternItem where
  | char (c : Char)
  | anyChar
  | anyRun
  deriving DecidableEq, Repr

abbrev Pattern := List PatternItem

namespace Pattern

/-- The pattern written by a text. -/
def ofChars : List Char → Pattern
  | [] => []
  | '.' :: '*' :: rest => .anyRun :: ofChars rest
  | '.' :: rest => .anyChar :: ofChars rest
  | c :: rest => .char c :: ofChars rest

def ofString (s : String) : Pattern :=
  ofChars s.toList

/-- Whether a text fits after some run of its characters was dropped. -/
def afterRun (fits : List Char → Bool) : List Char → Bool
  | [] => fits []
  | c :: rest => fits (c :: rest) || (c != '\n' && afterRun fits rest)

/-- Whether some beginning of a text fits a pattern. -/
def fitsStart : Pattern → List Char → Bool
  | [], _ => true
  | .char a :: p, s =>
    match s with
    | [] => false
    | c :: rest => c == a && fitsStart p rest
  | .anyChar :: p, s =>
    match s with
    | [] => false
    | c :: rest => c != '\n' && fitsStart p rest
  | .anyRun :: p, s => afterRun (fitsStart p) s

/-- Whether some stretch of a text fits a pattern. -/
def occurs (p : Pattern) : List Char → Bool
  | [] => fitsStart p []
  | c :: rest => fitsStart p (c :: rest) || occurs p rest

/-- The texts that a pattern describes. -/
inductive Matches : Pattern → List Char → Prop where
  | nil : Matches [] []
  | char {p s} (c : Char) : Matches p s → Matches (.char c :: p) (c :: s)
  | anyChar {p s} (c : Char) : c ≠ '\n' → Matches p s → Matches (.anyChar :: p) (c :: s)
  | anyRun {p s} (run : List Char) : '\n' ∉ run → Matches p s → Matches (.anyRun :: p) (run ++ s)

/-- Some stretch of a text is described by a pattern. -/
def FoundIn (p : Pattern) (s : List Char) : Prop :=
  ∃ before stretch after, s = before ++ stretch ++ after ∧ Matches p stretch

theorem afterRun_iff {fits : List Char → Bool} {s : List Char} :
    afterRun fits s = true ↔ ∃ run rest, s = run ++ rest ∧ '\n' ∉ run ∧ fits rest = true := by
  induction s with
  | nil =>
    rw [afterRun]
    constructor
    · intro h
      exact ⟨[], [], rfl, List.not_mem_nil, h⟩
    · rintro ⟨run, rest, hs, -, h⟩
      rw [List.nil_eq_append_iff.mp hs |>.2] at h
      exact h
  | cons c s ih =>
    rw [afterRun, Bool.or_eq_true, Bool.and_eq_true, ih, bne_iff_ne]
    constructor
    · rintro (h | ⟨hc, run, rest, rfl, hrun, h⟩)
      · exact ⟨[], c :: s, rfl, List.not_mem_nil, h⟩
      · exact ⟨c :: run, rest, rfl, List.not_mem_cons_of_ne_of_not_mem hc.symm hrun, h⟩
    · rintro ⟨run, rest, hs, hrun, h⟩
      cases run with
      | nil => exact .inl (hs ▸ h)
      | cons a run =>
        obtain ⟨rfl, rfl⟩ := List.cons.inj hs
        exact .inr ⟨(List.ne_of_not_mem_cons hrun).symm, run, rest, rfl,
          List.not_mem_of_not_mem_cons hrun, h⟩

theorem fitsStart_iff {p : Pattern} {s : List Char} :
    p.fitsStart s = true ↔ ∃ stretch after, s = stretch ++ after ∧ Matches p stretch := by
  induction p generalizing s with
  | nil =>
    simp only [fitsStart, true_iff]
    exact ⟨[], s, rfl, .nil⟩
  | cons item p ih =>
    cases item with
    | char a =>
      cases s with
      | nil =>
        simp only [fitsStart, Bool.false_eq_true, false_iff]
        rintro ⟨stretch, after, hs, hm⟩
        cases hm
        cases hs
      | cons c s =>
        simp only [fitsStart, Bool.and_eq_true, beq_iff_eq, ih]
        constructor
        · rintro ⟨rfl, stretch, after, rfl, hm⟩
          exact ⟨c :: stretch, after, rfl, .char c hm⟩
        · rintro ⟨stretch, after, hs, hm⟩
          cases hm with
          | char _ hm =>
            obtain ⟨rfl, rfl⟩ := List.cons.inj hs
            exact ⟨rfl, _, after, rfl, hm⟩
    | anyChar =>
      cases s with
      | nil =>
        simp only [fitsStart, Bool.false_eq_true, false_iff]
        rintro ⟨stretch, after, hs, hm⟩
        cases hm
        cases hs
      | cons c s =>
        simp only [fitsStart, Bool.and_eq_true, bne_iff_ne, ih]
        constructor
        · rintro ⟨hc, stretch, after, rfl, hm⟩
          exact ⟨c :: stretch, after, rfl, .anyChar c hc hm⟩
        · rintro ⟨stretch, after, hs, hm⟩
          cases hm with
          | anyChar _ hc hm =>
            obtain ⟨rfl, rfl⟩ := List.cons.inj hs
            exact ⟨hc, _, after, rfl, hm⟩
    | anyRun =>
      simp only [fitsStart, afterRun_iff, ih]
      constructor
      · rintro ⟨run, rest, rfl, hrun, stretch, after, rfl, hm⟩
        exact ⟨run ++ stretch, after, by rw [List.append_assoc], .anyRun run hrun hm⟩
      · rintro ⟨stretch, after, hs, hm⟩
        cases hm with
        | anyRun run hrun hm =>
          exact ⟨run, _, by rw [hs, List.append_assoc], hrun, _, after, rfl, hm⟩

theorem occurs_iff {p : Pattern} {s : List Char} : p.occurs s = true ↔ p.FoundIn s := by
  induction s with
  | nil =>
    rw [occurs, fitsStart_iff]
    constructor
    · rintro ⟨stretch, after, hs, hm⟩
      exact ⟨[], stretch, after, hs, hm⟩
    · rintro ⟨before, stretch, after, hs, hm⟩
      obtain ⟨hb, -⟩ := List.append_eq_nil_iff.mp hs.symm
      rw [(List.append_eq_nil_iff.mp hb).2] at hm
      exact ⟨[], [], rfl, hm⟩
  | cons c s ih =>
    rw [occurs, Bool.or_eq_true, fitsStart_iff, ih]
    constructor
    · rintro (⟨stretch, after, hs, hm⟩ | ⟨before, stretch, after, hs, hm⟩)
      · exact ⟨[], stretch, after, hs, hm⟩
      · exact ⟨c :: before, stretch, after, congrArg (c :: ·) hs, hm⟩
    · rintro ⟨before, stretch, after, hs, hm⟩
      cases before with
      | nil => exact .inl ⟨stretch, after, hs, hm⟩
      | cons b before => exact .inr ⟨before, stretch, after, (List.cons.inj hs).2, hm⟩

end Pattern

end InlineLinkage.Text
