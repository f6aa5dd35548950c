import InlineLinkage.Toolchain
import Mathlib.Tactic

/-!
# What is looked up before a run

The commands that are looked up for a domain are the shell and those that its cases use, so no case can ask
for a command that was not looked for. Each compiler is looked up once, in the order of first use, and the
first command that is missing is the error and ends the search.
-/
namespace InlineLinkage

/-- The names that are used, in the order in which they are first used. -/
structure FirstUses (uses names : List String) : Prop where
  mem_iff : ∀ n, n ∈ names ↔ n ∈ uses
  ordered : names.Pairwise fun n n' => uses.idxOf n < uses.idxOf n'

/-- A name has one first use, so no name is repeated. -/
theorem FirstUses.nodup {uses names : List String} (h : FirstUses uses names) : names.Nodup :=
  h.ordered.imp fun hlt heq => hlt.ne (by rw [heq])

theorem firstUses_eraseDups (uses : List String) : FirstUses uses uses.eraseDups := by
  refine ⟨fun n => List.mem_eraseDups, ?_⟩
  induction uses using List.reverseRecOn with
  | nil => exact List.Pairwise.nil
  | append_singleton uses n ih =>
    -- An earlier name keeps the place of its first use when another use follows.
    have hplace {n' : String} (hn' : n' ∈ uses.eraseDups) :
        (uses ++ [n]).idxOf n' = uses.idxOf n' :=
      List.idxOf_append_of_mem (List.mem_eraseDups.mp hn')
    have hearlier : uses.eraseDups.Pairwise fun a b =>
        (uses ++ [n]).idxOf a < (uses ++ [n]).idxOf b :=
      ih.imp_of_mem fun ha hb hlt => by rwa [hplace ha, hplace hb]
    rw [List.eraseDups_append]
    by_cases hn : n ∈ uses
    · have hnone : [n].removeAll uses = [] := by simp [List.removeAll, hn]
      rw [hnone, List.eraseDups_nil, List.append_nil]
      exact hearlier
    · have hnew : [n].removeAll uses = [n] := by simp [List.removeAll, hn]
      rw [hnew, List.eraseDups_cons, List.filter_nil, List.eraseDups_nil, List.pairwise_append]
      refine ⟨hearlier, List.pairwise_singleton _ _, ?_⟩
      intro a ha b hb
      obtain rfl := List.mem_singleton.mp hb
      rw [hplace ha, List.idxOf_append_of_notMem hn]
      have := List.idxOf_lt_length_of_mem (List.mem_eraseDups.mp ha)
      omega

/-- Uses that follow and are all of names used before change nothing. -/
theorem eraseDups_append_of_subset {uses later : List String} (h : later ⊆ uses) :
    (uses ++ later).eraseDups = uses.eraseDups := by
  have hnone : later.removeAll uses = [] := by
    rw [List.removeAll, List.filter_eq_nil_iff]
    intro n hn
    simp [h hn]
  rw [List.eraseDups_append, hnone, List.eraseDups_nil, List.append_nil]

theorem eraseDups_flatMap_const {α : Type} {l : List α} (hl : l ≠ []) (uses : List String) :
    (l.flatMap fun _ => uses).eraseDups = uses.eraseDups := by
  cases l with
  | nil => exact absurd rfl hl
  | cons a l =>
    rw [List.flatMap_cons]
    apply eraseDups_append_of_subset
    intro n hn
    obtain ⟨-, -, hn⟩ := List.mem_flatMap.mp hn
    exact hn

namespace Toolchain

/-- The commands of all cases are those of the pairs of compilers and dialects, again and again. -/
theorem map_commandFor_cases (drivers : Drivers) (d : Domain) :
    d.cases.map drivers.commandFor =
      d.levels.flatMap fun _ => d.declarations.flatMap fun _ => commands drivers d := by
  simp only [Domain.cases, commands, Domain.toolchains, List.map_flatMap, List.map_map]
  rfl

/-- With declarations and levels, the pairs have the commands of the cases, in the same order. -/
theorem eraseDups_commands {d : Domain} (hd : d.declarations ≠ []) (hl : d.levels ≠ [])
    (drivers : Drivers) :
    (commands drivers d).eraseDups = (d.cases.map drivers.commandFor).eraseDups := by
  rw [map_commandFor_cases, eraseDups_flatMap_const hl, eraseDups_flatMap_const hd]

/-- A look-up that notes the name that is asked for. -/
def noting (found : String → Bool) (name : String) : StateM (List String) Bool := do
  modify (· ++ [name])
  return found name

/-- The first name of a row that is not found. -/
def FirstMissing (found : String → Bool) (names : List String) (name : String) : Prop :=
  ∃ before after, names = before ++ name :: after ∧ (∀ n ∈ before, found n = true) ∧
    found name = false

/-- What comes of looking up a row of names, and the names that were asked for: all of them are found, or
the first that is not found is the last to be asked for. -/
inductive LookedUp (found : String → Bool) (names : List String) :
    Except MissingExecutable Unit → List String → Prop where
  | all (h : ∀ n ∈ names, found n = true) : LookedUp found names (.ok ()) names
  | missing {before after : List String} {name : String} (hnames : names = before ++ name :: after)
      (hbefore : ∀ n ∈ before, found n = true) (hname : found name = false) :
      LookedUp found names (.error ⟨name⟩) (before ++ [name])

section AnyLookup

variable {m : Type → Type} [Monad m] (lookUp : String → m Bool)

/-- Passing over what was checked amounts to looking up the distinct names that are new. -/
theorem requireNewBy_eq (checked names : List String) :
    requireNewBy lookUp checked names =
      requireAllBy lookUp (names.removeAll checked).eraseDups := by
  induction names generalizing checked with
  | nil => rfl
  | cons name rest ih =>
    by_cases hname : checked.contains name = true
    · rw [requireNewBy, if_pos hname, ih, List.cons_removeAll, if_neg (by simpa using hname)]
    · have hrest : (rest.removeAll checked).filter (fun n => !n == name) =
          rest.removeAll (checked ++ [name]) := by
        simp only [List.removeAll, List.filter_filter]
        refine List.filter_congr fun n _ => Bool.eq_iff_iff.mpr ?_
        simp [and_comm]
      rw [requireNewBy, if_neg hname, List.cons_removeAll, if_pos (by simpa using hname),
        List.eraseDups_cons, requireAllBy, hrest]
      simp only [ih]

theorem requireForBy_eq (c : Config) (d : Domain) :
    requireForBy lookUp c d =
      requireAllBy lookUp (c.shell :: (commands c.drivers d).eraseDups) := by
  rw [requireForBy, requireAllBy, requireNewBy_eq, List.removeAll_nil]

theorem requireAllBy_cons [LawfulMonad m] (name : String) (rest : List String) :
    requireAllBy lookUp (name :: rest) = do
      if ← lookUp name then requireAllBy lookUp rest else return .error ⟨name⟩ := by
  rw [requireAllBy, requireBy, bind_assoc]
  refine bind_congr fun answer => ?_
  cases answer with
  | true => exact pure_bind _ _
  | false => exact pure_bind _ _

end AnyLookup

variable {found : String → Bool}

theorem requireAll_cons (name : String) (rest : List String) :
    requireAll found (name :: rest) =
      if found name then requireAll found rest else .error ⟨name⟩ := by
  rw [requireAll, requireAllBy_cons, answering, pure_bind]
  cases found name <;> rfl

theorem run_noting_cons (name : String) (rest noted : List String) :
    (requireAllBy (noting found) (name :: rest)).run noted =
      if found name then (requireAllBy (noting found) rest).run (noted ++ [name])
      else (.error ⟨name⟩, noted ++ [name]) := by
  rw [requireAllBy_cons, noting]
  cases found name <;> rfl

theorem firstMissing_iff {names : List String} {name : String} :
    FirstMissing found names name ↔ names.find? (fun n => !found n) = some name := by
  simp only [FirstMissing, List.find?_eq_some_iff_append, Bool.not_eq_true', Bool.not_not]
  constructor
  · rintro ⟨before, after, hnames, hbefore, hname⟩
    exact ⟨hname, before, after, hnames, hbefore⟩
  · rintro ⟨hname, before, after, hnames, hbefore⟩
    exact ⟨before, after, hnames, hbefore, hname⟩

theorem firstMissing_cons_iff {name name' : String} {rest : List String} :
    FirstMissing found (name :: rest) name' ↔
      found name = false ∧ name' = name ∨ found name = true ∧ FirstMissing found rest name' := by
  simp only [firstMissing_iff]
  cases h : found name <;> simp [h, eq_comm]

theorem LookedUp.cons {name : String} {rest asked : List String}
    {result : Except MissingExecutable Unit} (hname : found name = true)
    (h : LookedUp found rest result asked) :
    LookedUp found (name :: rest) result (name :: asked) := by
  cases h with
  | all h => exact .all (List.forall_mem_cons.mpr ⟨hname, h⟩)
  | missing hnames hbefore hmissing =>
    subst hnames
    exact .missing rfl (List.forall_mem_cons.mpr ⟨hname, hbefore⟩) hmissing

theorem LookedUp.ok_iff {names asked : List String} {result : Except MissingExecutable Unit}
    (h : LookedUp found names result asked) :
    result = .ok () ↔ ∀ n ∈ names, found n = true := by
  cases h with
  | all hall => exact iff_of_true rfl hall
  | @missing before after name hnames hbefore hname =>
    constructor
    · intro hok
      cases hok
    · intro hall
      have := hall name (by simp [hnames])
      rw [hname] at this
      cases this

theorem LookedUp.error_iff {names asked : List String} {result : Except MissingExecutable Unit}
    (h : LookedUp found names result asked) (e : MissingExecutable) :
    result = .error e ↔ FirstMissing found names e.name := by
  cases h with
  | all hall =>
    constructor
    · intro herror
      cases herror
    · rintro ⟨before, after, rfl, -, hname⟩
      have := hall e.name (by simp)
      rw [hname] at this
      cases this
  | missing hnames hbefore hname =>
    have hfirst := firstMissing_iff.mp ⟨_, _, hnames, hbefore, hname⟩
    rw [firstMissing_iff, hfirst]
    obtain ⟨name'⟩ := e
    simp

/-- A look-up that notes what it is asked answers as one that does not, and names are asked for up to the
first that is missing. -/
theorem exists_lookedUp (names noted : List String) :
    ∃ asked, (requireAllBy (noting found) names).run noted =
        (requireAll found names, noted ++ asked) ∧
      LookedUp found names (requireAll found names) asked := by
  induction names generalizing noted with
  | nil => exact ⟨[], by rw [List.append_nil]; rfl, .all (List.forall_mem_nil _)⟩
  | cons name rest ih =>
    rw [run_noting_cons, requireAll_cons]
    by_cases hname : found name = true
    · obtain ⟨asked, hrun, hasked⟩ := ih (noted ++ [name])
      refine ⟨name :: asked, ?_, ?_⟩
      · rw [if_pos hname, if_pos hname, hrun, List.append_assoc, List.singleton_append]
      · rw [if_pos hname]
        exact hasked.cons hname
    · refine ⟨[name], ?_, ?_⟩
      · rw [if_neg hname, if_neg hname]
      · rw [if_neg hname]
        exact .missing (List.nil_append _).symm (List.forall_mem_nil _) (Bool.eq_false_iff.mpr hname)

theorem exists_compileCommand_eq (x : Case) (drivers : Drivers) :
    ∃ rest, (BuildScript.ofCase x drivers).compileCommand =
      drivers.commandFor x ++ (" " ++ rest) := by
  refine ⟨x.flags ++ " file1" ++ x.dialect.fileExtension ++ " file2" ++ x.dialect.fileExtension ++
    " -o test", ?_⟩
  simp only [BuildScript.ofCase, String.append_assoc]

/-- Before a run of a domain with declarations and levels, the check succeeds just if the shell is found and
every case finds the command that its compile command starts with. What fails is the shell if it is missing,
and otherwise the first compiler that is, in the order in which the cases first use them. Names are asked for
in this order, each compiler once, up to the first that is missing. -/
theorem check_covers_cases {d : Domain} (hd : d.declarations ≠ []) (hl : d.levels ≠ []) (c : Config)
    (found : String → Bool) :
    (∀ x : Case, ∃ rest, (BuildScript.ofCase x c.drivers).compileCommand =
        c.drivers.commandFor x ++ (" " ++ rest)) ∧
      (requireFor found c d = .ok () ↔
        found c.shell = true ∧ ∀ x ∈ d.cases, found (c.drivers.commandFor x) = true) ∧
      ∃ names, FirstUses (d.cases.map c.drivers.commandFor) names ∧ names.Nodup ∧
        (∀ e, requireFor found c d = .error e ↔
          found c.shell = false ∧ e.name = c.shell ∨
            found c.shell = true ∧ FirstMissing found names e.name) ∧
        ∃ asked, (requireForBy (noting found) c d).run [] = (requireFor found c d, asked) ∧
          LookedUp found (c.shell :: names) (requireFor found c d) asked := by
  let names := (d.cases.map c.drivers.commandFor).eraseDups
  have huses : FirstUses (d.cases.map c.drivers.commandFor) names := firstUses_eraseDups _
  have hcheck : requireFor found c d = requireAll found (c.shell :: names) := by
    rw [requireFor, requireForBy_eq, eraseDups_commands hd hl, requireAll]
  obtain ⟨asked, hrun, hasked⟩ := @exists_lookedUp found (c.shell :: names) []
  rw [← hcheck] at hrun hasked
  refine ⟨fun x => exists_compileCommand_eq x c.drivers, ?_, names, huses, huses.nodup, fun e => ?_,
    asked, ?_, hasked⟩
  · rw [hasked.ok_iff, List.forall_mem_cons]
    simp only [huses.mem_iff, List.forall_mem_map]
  · rw [hasked.error_iff e, firstMissing_cons_iff]
  · rw [requireForBy_eq, eraseDups_commands hd hl]
    exact hrun

/-- Compilers that are used again and again are looked up once, and the last of them is missing. -/
theorem check_covers_cases_clang :
    let d : Domain :=
      ⟨[.o0, .o2], [.symmetric [], .definitionOnly []], [.gcc, .clang], [.c89, .cxx11, .c99]⟩
    let c : Config := { cCompiler := some "cc" }
    let found : String → Bool := fun n => ["bash", "cc", "g++"].contains n
    d.declarations ≠ [] ∧ d.levels ≠ [] ∧ requireFor found c d = .error ⟨"clang++"⟩ ∧
      ¬ ∀ x ∈ d.cases, found (c.drivers.commandFor x) = true := by
  intro d c found
  have hd : d.declarations ≠ [] := List.cons_ne_nil _ _
  have hl : d.levels ≠ [] := List.cons_ne_nil _ _
  obtain ⟨-, hok, -⟩ := check_covers_cases hd hl c found
  have hshell : found c.shell = true := by decide
  have hmissing : requireFor found c d = .error ⟨"clang++"⟩ := by decide
  refine ⟨hd, hl, hmissing, fun hall => ?_⟩
  rw [hok.mpr ⟨hshell, hall⟩] at hmissing
  cases hmissing

end Toolchain

end InlineLinkage
