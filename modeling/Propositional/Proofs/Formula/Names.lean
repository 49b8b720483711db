import Propositional.Proofs.Formula.RoundTrip
import Propositional.Proofs.Names
import Propositional.Proofs.Table.Orders

/-! The names in the text of a formula. A symbol stands between any two of them, so they are found from left to right
    whatever the formula looks like, also where its text is read as another formula or as none. A statement of the formula
    and its own text therefore gives a value to each variable in every row of its table. -/

namespace Propositional
open Text Formula

/-! ### Names that are found -/

theorem isName_of_mem_namesIn {s : List Char} {v : String} (h : v ∈ namesIn s) : IsName v := by
  rw [namesIn_eq, List.mem_eraseDups] at h
  obtain ⟨word, hword, rfl⟩ := List.mem_map.mp h
  obtain ⟨hrun, hletters⟩ := List.mem_filter.mp hword
  have hne : word ≠ [] := by
    rintro rfl
    cases (List.mem_filter.mp hrun).2
  exact isName_ofList hne (List.all_eq_true.mp hletters)

section
variable {f : Formula}

theorem namesIn_render (h : ∀ v ∈ f.vars, IsName v) : namesIn f.render.toList = f.vars := by
  have hscan : Scans f.chars f.tokens := scans_chars fun v hv => h v (mem_vars.mpr hv)
  rw [render, String.toList_ofList, namesIn_of_scans hscan, vars_eq, occurrences]

/-- Only names are found again. -/
theorem namesIn_render_eq_vars_iff : namesIn f.render.toList = f.vars ↔ ∀ v ∈ f.vars, IsName v := by
  constructor
  · intro h v hv
    rw [← h] at hv
    exact isName_of_mem_namesIn hv
  · exact namesIn_render

end

/-! ### Tables -/

namespace Table

/-- The table of a statement in whose text the variables of the formula are found. -/
theorem ofStatement_of_names_eq {s : Statement} (h : s.names = s.formula.vars) (options : Options) :
    ofStatement s options =
      if min options.maxVars 63 < s.formula.vars.length then
        .error (.tooManyVariables s.formula.vars.length (min options.maxVars 63))
      else
        .ok { vars := s.formula.vars, expression := s.source,
              rows := (List.range (2 ^ s.formula.vars.length)).map (rowOf s.formula.vars s.formula) } := by
  have hlimit : options.limit = min options.maxVars 63 := rfl
  rw [ofStatement_eq, h, hlimit, rowsOf_eq options.parallel fun v hv => hv]
  rfl

/-- In the text of a formula its variables are found, in the order in which they occur first in the formula, exactly
    when all of them are names. Then the formula with its own text has a table, unless it has too many variables, and no
    variable is ever without a value. -/
theorem names_of_render (f : Formula) :
    (namesIn f.render.toList = f.vars ↔ ∀ v ∈ f.vars, IsName v) ∧
      ((∀ v ∈ f.vars, IsName v) → ∀ (vars : List String) (options : Options),
        (∀ v, ofStatement ⟨f.render, vars, f⟩ options ≠ .error (.unbound v)) ∧
          ofStatement ⟨f.render, vars, f⟩ options =
            if min options.maxVars 63 < f.vars.length then
              .error (.tooManyVariables f.vars.length (min options.maxVars 63))
            else
              .ok { vars := f.vars, expression := f.render,
                    rows := (List.range (2 ^ f.vars.length)).map (rowOf f.vars f) }) := by
  refine ⟨namesIn_render_eq_vars_iff, fun h vars options => ?_⟩
  have hnames : Statement.names ⟨f.render, vars, f⟩ = f.vars := namesIn_render h
  have htable := ofStatement_of_names_eq hnames options
  refine ⟨fun v herror => ?_, htable⟩
  rw [htable] at herror
  split at herror <;> cases herror

/-- A negation of a conjunction whose right operand is a disjunction: the text is read as a disjunction. -/
theorem names_of_render_misread :
    (not (and (var "b") (or (var "a") (var "b")))).render = "!b && a || b" ∧
      (∃ s, Statement.parse "!b && a || b" = .ok s ∧
        s.formula = or (and (not (var "b")) (var "a")) (var "b")) ∧
      namesIn (not (and (var "b") (or (var "a") (var "b")))).render.toList = ["b", "a"] ∧
      ofStatement ⟨(not (and (var "b") (or (var "a") (var "b")))).render, [], not (and (var "b") (or (var "a") (var "b")))⟩
          {} =
        .ok { vars := ["b", "a"], expression := "!b && a || b",
              rows := [[false, false, true], [true, false, false], [false, true, true], [true, true, false]] } := by
  obtain ⟨hnames, htable⟩ := names_of_render (not (and (var "b") (or (var "a") (var "b"))))
  have hvars : ∀ v ∈ (not (and (var "b") (or (var "a") (var "b")))).vars, IsName v := by decide +kernel
  have hrender : (not (and (var "b") (or (var "a") (var "b")))).render = "!b && a || b" := by decide +kernel
  have hparse : Statement.parse "!b && a || b" =
      .ok ⟨"!b && a || b", ["b", "a"], or (and (not (var "b")) (var "a")) (var "b")⟩ := by decide +kernel
  refine ⟨hrender, ⟨_, hparse, rfl⟩, (hnames.mpr hvars).trans (by decide +kernel), ?_⟩
  rw [(htable hvars [] {}).2]
  decide +kernel

end Table

end Propositional
