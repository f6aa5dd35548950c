import InlineLinkage.CommandLine.Answer
import InlineLinkage.Proofs.CaseTexts
import InlineLinkage.Proofs.GccDomain

/-!
# A case on the command line

The arguments that ask for a case: each of its texts behind the name of its option and an equals sign.
The options are read one after the other, so the program finds exactly this case, and what it prints for
the case is known from the rules alone.
-/
namespace InlineLinkage

namespace CommandLine

/-- A value written behind its option. -/
def argument (name value : String) : String :=
  "--" ++ name ++ "=" ++ value

theorem splitEquals_append {name : List Char} (hname : '=' ∉ name) (value : List Char) :
    splitEquals (name ++ '=' :: value) = (name, some value) := by
  induction name with
  | nil => rfl
  | cons c name ih =>
    obtain ⟨hc, hname⟩ := not_or.mp (List.mem_cons.not.mp hname)
    rw [List.cons_append, splitEquals, if_neg (Ne.symm hc), ih hname]

theorem shape_argument {name : String} (hname : '=' ∉ name.toList) (value : String) :
    shape (argument name value) = .long name (some value) := by
  have hchars : (argument name value).toList = '-' :: '-' :: (name.toList ++ '=' :: value.toList) := by
    simp [argument]
  obtain ⟨c, rest, hrest⟩ : ∃ c rest, name.toList ++ '=' :: value.toList = c :: rest :=
    List.exists_cons_of_ne_nil (by simp)
  have hsplit := splitEquals_append hname value.toList
  rw [hrest] at hsplit
  rw [shape, hchars, hrest]
  simp only [hsplit, String.ofList_toList, Option.map_some]

/-- An option takes the value that is written behind it. -/
structure Takes (forms : Forms) (check : String → String → Bool) (name value : String) : Prop where
  plain : '=' ∉ name.toList
  form : ∃ form, forms.lookup name = some form ∧ form ≠ .flag
  checked : check name value = true

variable {forms : Forms} {check : String → String → Bool}

/-- A new option is read with its value. -/
theorem readOptions_argument {name value : String} (h : Takes forms check name value)
    {given : Given} (hnew : name ∉ given.map Prod.fst) (rest : List String) :
    readOptions forms check given (argument name value :: rest) =
      readOptions forms check ((name, some value) :: given) rest := by
  obtain ⟨form, hform, hvalue⟩ := h.form
  have hany : (given.any fun g => g.1 == name) = false := by
    rw [List.any_eq_false]
    intro g hg he
    exact hnew (List.mem_map.mpr ⟨g, hg, beq_iff_eq.mp he⟩)
  have hgive : give check given name (some value) = .ok ((name, some value) :: given) := by
    rw [give, if_neg (by simp [hany])]
    simp only [h.checked, ↓reduceIte]
  rw [readOptions.eq_def]
  simp only [shape_argument h.plain, hform]
  cases form with
  | flag => exact absurd rfl hvalue
  | value => simp only [hgive]
  | anyValue => simp only [hgive]

/-- Different options are read one after the other. -/
theorem readOptions_arguments {options : List (String × String)}
    (h : ∀ o ∈ options, Takes forms check o.1 o.2) {given : Given}
    (hn : (options.map Prod.fst ++ given.map Prod.fst).Nodup) :
    readOptions forms check given (options.map fun o => argument o.1 o.2) =
      .ok ((options.map fun o => (o.1, some o.2)).reverse ++ given) := by
  induction options generalizing given with
  | nil => rfl
  | cons o options ih =>
    obtain ⟨ho, hoptions⟩ := List.forall_mem_cons.mp h
    rw [List.map_cons, List.cons_append] at hn
    obtain ⟨hnew, hn⟩ := List.nodup_cons.mp hn
    have hgiven : o.1 ∉ given.map Prod.fst := fun hm => hnew (List.mem_append_right _ hm)
    have hnext : (options.map Prod.fst ++ ((o.1, some o.2) :: given).map Prod.fst).Nodup :=
      List.nodup_middle.mpr (List.nodup_cons.mpr ⟨hnew, hn⟩)
    rw [List.map_cons, readOptions_argument ho hgiven, ih hoptions hnext, List.map_cons,
      List.reverse_cons, List.append_assoc, List.singleton_append]

end CommandLine

open CommandLine

namespace Case

/-- The case with its qualifiers as texts. -/
def request (c : Case) : CaseRequest where
  definition := c.declarations.definition.text
  prototype := c.declarations.prototype.map Qualifiers.text
  compiler := c.compiler
  dialect := c.dialect
  level := c.level

theorem toCase_request (c : Case) : c.request.toCase = .ok c := by
  rw [CaseRequest.toCase]
  simp only [request, Declarations.ofTexts_text]

/-- The options that describe a case. Without a forward declaration there is none for it. -/
def options (c : Case) : List (String × String) :=
  (c.declarations.prototype.map fun p => ("prototype", p.text)).toList ++
    [("definition", c.declarations.definition.text), ("compiler", c.compiler.name),
      ("std", c.dialect.spelling), ("opt", c.level.flag)]

/-- The arguments that ask for the encoded outcome of a case. -/
def classifyArguments (c : Case) : List String :=
  "classify" :: "--json" :: c.options.map fun option => argument option.1 option.2

/-- The forms of the options of `classify`. -/
def classifyForms : Forms :=
  caseForms ++ [("json", .flag)] ++ sharedForms

theorem takes_options (c : Case) : ∀ o ∈ c.options, Takes classifyForms isValue o.1 o.2 := by
  have hprototype (qs : Qualifiers) : Takes classifyForms isValue "prototype" qs.text :=
    ⟨by decide, ⟨.value, by decide, by decide⟩, rfl⟩
  have hdefinition (qs : Qualifiers) : Takes classifyForms isValue "definition" qs.text :=
    ⟨by decide, ⟨.value, by decide, by decide⟩, rfl⟩
  have hcompiler (k : Compiler) : Takes classifyForms isValue "compiler" k.name :=
    ⟨by decide, ⟨.value, by decide, by decide⟩, by cases k <;> decide⟩
  have hdialect (d : Dialect) : Takes classifyForms isValue "std" d.spelling :=
    ⟨by decide, ⟨.value, by decide, by decide⟩, by cases d <;> decide⟩
  have hlevel (l : Level) : Takes classifyForms isValue "opt" l.flag :=
    ⟨by decide, ⟨.anyValue, by decide, by decide⟩, by cases l <;> decide⟩
  intro o ho
  simp only [options, List.mem_append, Option.mem_toList, Option.map_eq_some_iff, List.mem_cons,
    List.not_mem_nil, or_false] at ho
  obtain ⟨p, -, rfl⟩ | rfl | rfl | rfl | rfl := ho
  · exact hprototype p
  · exact hdefinition _
  · exact hcompiler _
  · exact hdialect _
  · exact hlevel _

/-- No option stands twice. -/
theorem nodup_options (c : Case) : (c.options.map Prod.fst ++ ["json"]).Nodup := by
  obtain ⟨⟨prototype, definition⟩, compiler, dialect, level⟩ := c
  cases prototype with
  | none => simp [options]
  | some p => simp [options]

/-- The options of a case, the last first, behind the flag. -/
def given (c : Case) : Given :=
  (c.options.map fun o => (o.1, some o.2)).reverse ++ [("json", none)]

/-- The options of a case give the case, with its qualifiers as texts. -/
theorem ofGiven_given (c : Case) : CaseRequest.ofGiven c.given = .ok c.request := by
  obtain ⟨⟨prototype, definition⟩, compiler, dialect, level⟩ := c
  let g := given ⟨⟨prototype, definition⟩, compiler, dialect, level⟩
  have hdefinition : Given.required g "definition" = .ok definition.text := by
    cases prototype <;> rfl
  have hprototype : Given.value? g "prototype" = prototype.map Qualifiers.text := by
    cases prototype <;> rfl
  have hcompiler : Given.value? g "compiler" = some compiler.name := by
    cases prototype <;> rfl
  have hdialect : Given.required g "std" = .ok dialect.spelling := by
    cases prototype <;> rfl
  have hlevel : Given.required g "opt" = .ok level.flag := by
    cases prototype <;> rfl
  rw [CaseRequest.ofGiven, hdefinition, hprototype, hcompiler, hdialect, hlevel]
  simp only [bind, Except.bind, Option.getD_some, setting, Compiler.ofText_name,
    Dialect.ofText_spelling, Level.ofText_flag]
  rfl

theorem ofArguments_classifyArguments (c : Case) :
    Request.ofArguments c.classifyArguments = .ok (.classify c.request true) := by
  have hcommand : shape "classify" = .plain := by decide
  have hforms : commandForms.lookup "classify" = some (caseForms ++ [("json", .flag)]) := by decide
  have hflag (rest : List String) : readOptions classifyForms isValue [] ("--json" :: rest) =
      readOptions classifyForms isValue [("json", none)] rest := by
    have hjson : shape "--json" = .long "json" none := by decide
    have hform : classifyForms.lookup "json" = some .flag := by decide
    rw [readOptions.eq_def]
    simp only [hjson, hform, give, List.any_nil, Bool.false_eq_true, ↓reduceIte]
  have hread : readOptions classifyForms isValue [("json", none)]
      (c.options.map fun o => argument o.1 o.2) = .ok c.given :=
    readOptions_arguments c.takes_options c.nodup_options
  have hjson : Given.has c.given "json" = true := by simp [given, Given.has]
  rw [Request.ofArguments, classifyArguments, Request.ofArgumentsFrom, hcommand]
  simp only [Request.ofCommand, hforms]
  rw [← classifyForms, hflag, hread]
  simp only [Request.ofGiven, ofGiven_given, hjson]
  rfl

/-- The program prints the encoded outcome of a case, on a line of its own. -/
theorem program_classifyArguments {c : Case} (hc : c.compiler = .gcc) (w : World) :
    program w c.classifyArguments = { output := c.outcome.encoded ++ "\n" } := by
  rw [program, ofArguments_classifyArguments]
  simp only [Request.answer, classify, toCase_request, predict_of_gcc hc, Answer.after, Answer.line,
    ↓reduceIte]

end Case

end InlineLinkage
