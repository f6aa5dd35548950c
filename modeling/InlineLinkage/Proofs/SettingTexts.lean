import InlineLinkage.Proofs.ScriptLayout
import InlineLinkage.Proofs.Trimming

/-!
# The texts that name settings

A case is read back from the texts of its parts. A text names a setting if what is left of it between
blanks is the text of the setting, for a dialect also behind the option, for a level also without its dash.
No text names two settings. Any other text is an error, and what the error repeats differs: the text as it
is for a level, without the blanks for a compiler, and for a dialect without the option as well.
-/
namespace InlineLinkage

namespace Text

/-- What a text is without a beginning, taken away once if it is there. -/
inductive DropsStart (start : List Char) : List Char → List Char → Prop where
  | present (rest : List Char) : DropsStart start (start ++ rest) rest
  | absent {s : List Char} (h : ¬ start <+: s) : DropsStart start s s

theorem getD_dropStart?_eq_iff {start s rest : List Char} :
    (dropStart? start s).getD s = rest ↔ DropsStart start s rest := by
  cases hs : dropStart? start s with
  | some found =>
    obtain rfl := dropStart?_eq_some_iff.mp hs
    constructor
    · rintro rfl
      exact .present found
    · intro h
      generalize htext : start ++ found = t at h
      cases h with
      | present => exact List.append_cancel_left htext
      | absent h => exact absurd ⟨found, htext⟩ h
  | none =>
    have habsent : ¬ start <+: s := by
      rintro ⟨found, htext⟩
      rw [dropStart?_eq_some_iff.mpr htext.symm] at hs
      cases hs
    constructor
    · rintro rfl
      exact .absent habsent
    · intro h
      cases h with
      | present rest => exact absurd (List.prefix_append start rest) habsent
      | absent => rfl

section Lookup

variable {α ε : Type} {all : List α} {write : α → List Char} {word : List Char}

/-- The one among all whose text is a word. -/
def lookup (all : List α) (write : α → List Char) (word : List Char) (e : ε) : Except ε α :=
  match all.find? fun a => write a == word with
  | some a => .ok a
  | none => .error e

theorem find?_write_eq_some_iff (hall : ∀ a, a ∈ all) (hinj : Function.Injective write) {a : α} :
    all.find? (fun b => write b == word) = some a ↔ write a = word := by
  constructor
  · intro h
    simpa using List.find?_some h
  · rintro rfl
    have hfound : (all.find? fun b => write b == write a).isSome = true :=
      List.find?_isSome.mpr ⟨a, hall a, by simp⟩
    obtain ⟨b, hb⟩ := Option.isSome_iff_exists.mp hfound
    have hwrite : write b = write a := by simpa using List.find?_some hb
    rw [hb, hinj hwrite]

theorem find?_write_eq_none_iff (hall : ∀ a, a ∈ all) :
    all.find? (fun b => write b == word) = none ↔ ∀ a, write a ≠ word := by
  simp only [List.find?_eq_none, beq_iff_eq]
  exact ⟨fun h a => h a (hall a), fun h a _ => h a⟩

theorem lookup_eq_ok_iff (hall : ∀ a, a ∈ all) (hinj : Function.Injective write) {e : ε} {a : α} :
    lookup all write word e = .ok a ↔ write a = word := by
  rw [← find?_write_eq_some_iff hall hinj, lookup]
  cases all.find? fun b => write b == word <;> simp

theorem lookup_eq_error_iff (hall : ∀ a, a ∈ all) {e e' : ε} :
    lookup all write word e = .error e' ↔ (∀ a, write a ≠ word) ∧ e' = e := by
  rw [← find?_write_eq_none_iff hall, lookup]
  cases all.find? fun b => write b == word <;> simp [eq_comm]

end Lookup

end Text

open Text

namespace Dialect

/-- The word of a text that is compared with the spellings. -/
def wordOf (core : List Char) : List Char :=
  (dropStart? optionStart core).getD core

theorem ofText_eq {s : String} {core : List Char} (h : IsTrimmed s.toList core) :
    ofText s = lookup all (fun d => d.spelling.toList) (wordOf core)
      ⟨.dialect, String.ofList (wordOf core)⟩ := by
  simp only [ofText, h.trimChars_eq, lookup, wordOf]
  cases all.find? fun d => d.spelling.toList == (dropStart? optionStart core).getD core <;> rfl

theorem spellingChars_injective : Function.Injective fun d : Dialect => d.spelling.toList :=
  fun _ _ h => spelling_injective (String.toList_injective h)

/-- The word of a text is a spelling if the text is, or if it is one behind the option. -/
theorem spelling_eq_wordOf_iff {core : List Char} {d : Dialect} :
    d.spelling.toList = wordOf core ↔
      core = d.spelling.toList ∨ core = optionStart ++ d.spelling.toList := by
  rw [eq_comm, wordOf, getD_dropStart?_eq_iff]
  constructor
  · intro h
    generalize d.spelling.toList = spelling at h
    cases h with
    | present => exact .inr rfl
    | absent => exact .inl rfl
  · rintro (rfl | rfl)
    · exact .absent (by cases d <;> decide)
    · exact .present _

theorem ofText_eq_ok_iff {s : String} {core : List Char} (h : IsTrimmed s.toList core) (d : Dialect) :
    ofText s = .ok d ↔ core = d.spelling.toList ∨ core = optionStart ++ d.spelling.toList := by
  rw [ofText_eq h, lookup_eq_ok_iff mem_all spellingChars_injective, spelling_eq_wordOf_iff]

theorem ofText_eq_error_iff {s : String} {core : List Char} (h : IsTrimmed s.toList core)
    (e : UnknownSetting) :
    ofText s = .error e ↔
      (∀ d : Dialect, core ≠ d.spelling.toList ∧ core ≠ optionStart ++ d.spelling.toList) ∧
        e.kind = .dialect ∧ DropsStart optionStart core e.value.toList := by
  rw [ofText_eq h, lookup_eq_error_iff mem_all]
  simp only [ne_eq, spelling_eq_wordOf_iff, not_or, ← getD_dropStart?_eq_iff]
  refine and_congr_right fun _ => ?_
  constructor
  · rintro rfl
    exact ⟨rfl, String.toList_ofList.symm⟩
  · rintro ⟨hkind, hvalue⟩
    obtain ⟨kind, value⟩ := e
    obtain rfl : kind = .dialect := hkind
    rw [wordOf, hvalue, String.ofList_toList]

end Dialect

namespace Level

theorem ofText_eq {s : String} {core : List Char} (h : IsTrimmed s.toList core) :
    ofText s = lookup all (fun l => l.name.toList) (dropDash core) ⟨.level, s⟩ := by
  simp only [ofText, h.trimChars_eq, lookup]
  cases all.find? fun l => l.name.toList == dropDash core <;> rfl

theorem toList_flag (l : Level) : l.flag.toList = '-' :: l.name.toList := by
  rw [flag, String.toList_append]
  rfl

theorem nameChars_injective : Function.Injective fun l : Level => l.name.toList := by
  intro l l' h
  have hname : l.name.toList = l'.name.toList := h
  have hflag : l.flag.toList = l'.flag.toList := by rw [toList_flag, toList_flag, hname]
  exact flag_injective (String.toList_injective hflag)

theorem name_eq_dropDash_iff {core : List Char} {l : Level} :
    l.name.toList = dropDash core ↔ core = l.flag.toList ∨ '-' :: core = l.flag.toList := by
  have hdash : l.name.toList.head? ≠ some '-' := by cases l <;> decide
  rw [toList_flag, List.cons_inj_right]
  unfold dropDash
  split
  · rename_i rest
    constructor
    · intro h
      exact .inl (by rw [h])
    · rintro (h | h)
      · exact (List.cons.inj h).2.symm
      · exact absurd (by rw [← h]; rfl) hdash
  · rename_i hother
    constructor
    · exact fun h => .inr h.symm
    · rintro (h | h)
      · exact absurd h (hother _)
      · exact h.symm

theorem ofText_eq_ok_iff {s : String} {core : List Char} (h : IsTrimmed s.toList core) (l : Level) :
    ofText s = .ok l ↔ core = l.flag.toList ∨ '-' :: core = l.flag.toList := by
  rw [ofText_eq h, lookup_eq_ok_iff mem_all nameChars_injective, name_eq_dropDash_iff]

theorem ofText_eq_error_iff {s : String} {core : List Char} (h : IsTrimmed s.toList core)
    (e : UnknownSetting) :
    ofText s = .error e ↔
      (∀ l : Level, core ≠ l.flag.toList ∧ '-' :: core ≠ l.flag.toList) ∧ e = ⟨.level, s⟩ := by
  rw [ofText_eq h, lookup_eq_error_iff mem_all]
  simp only [ne_eq, name_eq_dropDash_iff, not_or]

end Level

namespace Compiler

theorem ofText_eq {s : String} {core : List Char} (h : IsTrimmed s.toList core) :
    ofText s = lookup all (fun k => k.name.toList) core ⟨.compiler, String.ofList core⟩ := by
  simp only [ofText, h.trimChars_eq, lookup]
  cases all.find? fun k => k.name.toList == core <;> rfl

theorem nameChars_injective : Function.Injective fun k : Compiler => k.name.toList :=
  fun _ _ h => injective_of_reads ofText_name (String.toList_injective h)

theorem ofText_eq_ok_iff {s : String} {core : List Char} (h : IsTrimmed s.toList core) (k : Compiler) :
    ofText s = .ok k ↔ core = k.name.toList := by
  rw [ofText_eq h, lookup_eq_ok_iff mem_all nameChars_injective, eq_comm]

theorem ofText_eq_error_iff {s : String} {core : List Char} (h : IsTrimmed s.toList core)
    (e : UnknownSetting) :
    ofText s = .error e ↔
      (∀ k : Compiler, core ≠ k.name.toList) ∧ e = ⟨.compiler, String.ofList core⟩ := by
  rw [ofText_eq h, lookup_eq_error_iff mem_all]
  simp only [ne_eq, eq_comm]

end Compiler

/-- Declarations are wrong where their first wrong text is wrong. The forward declaration is read first. -/
theorem Declarations.ofTexts_eq_error_iff {prototype : Option String} {definition : String}
    {e : UnknownQualifier} :
    ofTexts prototype definition = .error e ↔
      (∃ p, prototype = some p ∧ Qualifiers.ofText p = .error e) ∨
        (∀ p, prototype = some p → ∃ qs, Qualifiers.ofText p = .ok qs) ∧
          Qualifiers.ofText definition = .error e := by
  cases prototype with
  | none => cases hd : Qualifiers.ofText definition <;> simp [ofTexts, hd, Except.map]
  | some p =>
    cases hp : Qualifiers.ofText p with
    | error e' => simp [ofTexts, hp]
    | ok qs => cases hd : Qualifiers.ofText definition <;> simp [ofTexts, hp, hd, Except.map]

namespace Case

/-- The texts under which the parts of a case are shown. -/
def texts (c : Case) : CaseTexts where
  prototype := c.declarations.prototype.map Qualifiers.text
  definition := c.declarations.definition.text
  compiler := c.compiler.name
  dialect := c.dialect.spelling
  level := c.level.flag

theorem ofTexts_texts (c : Case) : ofTexts c.texts = .ok c := by
  simp only [ofTexts, texts, Declarations.ofTexts_text, Compiler.ofText_name, Dialect.ofText_spelling,
    Level.ofText_flag]
  rfl

/-- A case is read back from its texts. Every text has one core between blanks. It names a dialect if its core
is a spelling, alone or straight behind the option, a level if its core is a flag with or without the dash,
and a compiler if its core is the name, and nothing else does. Any other text is an error that repeats the
core less one option for a dialect, the whole text for a level, and the core for a compiler. Of two wrong
rows of qualifiers the forward declaration's is reported. -/
theorem texts_read_exactly :
    (∀ c : Case, ofTexts c.texts = .ok c) ∧
      (∀ s : String, ∃! core, IsTrimmed s.toList core) ∧
      (∀ (s : String) (core : List Char), IsTrimmed s.toList core →
        (∀ d, Dialect.ofText s = .ok d ↔
          core = d.spelling.toList ∨ core = "-std=".toList ++ d.spelling.toList) ∧
        (∀ e, Dialect.ofText s = .error e ↔
          (∀ d : Dialect, core ≠ d.spelling.toList ∧ core ≠ "-std=".toList ++ d.spelling.toList) ∧
            e.kind = .dialect ∧ DropsStart "-std=".toList core e.value.toList) ∧
        (∀ l, Level.ofText s = .ok l ↔ core = l.flag.toList ∨ '-' :: core = l.flag.toList) ∧
        (∀ e, Level.ofText s = .error e ↔
          (∀ l : Level, core ≠ l.flag.toList ∧ '-' :: core ≠ l.flag.toList) ∧ e = ⟨.level, s⟩) ∧
        (∀ k, Compiler.ofText s = .ok k ↔ core = k.name.toList) ∧
        ∀ e, Compiler.ofText s = .error e ↔
          (∀ k : Compiler, core ≠ k.name.toList) ∧ e = ⟨.compiler, String.ofList core⟩) ∧
      ∀ (prototype : Option String) (definition : String) (e : UnknownQualifier),
        Declarations.ofTexts prototype definition = .error e ↔
          (∃ p, prototype = some p ∧ Qualifiers.ofText p = .error e) ∨
            (∀ p, prototype = some p → ∃ qs, Qualifiers.ofText p = .ok qs) ∧
              Qualifiers.ofText definition = .error e := by
  refine ⟨ofTexts_texts, fun s => ?_, fun s core h => ?_,
    fun _ _ _ => Declarations.ofTexts_eq_error_iff⟩
  · exact ⟨trimChars s.toList, isTrimmed_trimChars _, fun core h => h.trimChars_eq.symm⟩
  · exact ⟨Dialect.ofText_eq_ok_iff h, Dialect.ofText_eq_error_iff h, Level.ofText_eq_ok_iff h,
      Level.ofText_eq_error_iff h, Compiler.ofText_eq_ok_iff h, Compiler.ofText_eq_error_iff h⟩

/-- The option is taken away once, and a level keeps its blanks in an error. -/
theorem texts_read_exactly_twice_optioned :
    let s := " -std=-std=c99
"
    let core := "-std=-std=c99".toList
    IsTrimmed s.toList core ∧ Dialect.ofText s = .error ⟨.dialect, "-std=c99"⟩ ∧
      Level.ofText s = .error ⟨.level, s⟩ := by
  intro s core
  have h : IsTrimmed s.toList core := isTrimmed_iff.mpr (by decide)
  obtain ⟨-, hdialect, -, hlevel, -, -⟩ := texts_read_exactly.2.2.1 s core h
  refine ⟨h, (hdialect _).mpr ⟨?_, rfl, .present "-std=c99".toList⟩, (hlevel _).mpr ⟨?_, rfl⟩⟩
  · intro d
    cases d <;> decide
  · intro l
    cases l <;> decide

end Case

end InlineLinkage
