import UnitCalc.Proofs.Alike
import UnitCalc.Proofs.Evaluator.Forest

/-!
# One tree over two registries

If every reading of a tree ends alike over two registries, with values or ruled out, then so
does the tree, and the reading that survives is the same.
-/

namespace UnitCalc.Expr

variable {K : Type}

/-- Two faults that only rule out a reading. -/
def RulesOutBoth (f f' : Fault K) : Prop := f.rulesOutReading = true ∧ f'.rulesOutReading = true

section Alike

variable {α : Type} {good : α → α → Prop} {x y : Except (Fault K) α}

theorem recoverable_ok (a : α) : Recoverable (.ok a : Except (Fault K) α) := by
  rintro f ⟨⟩

theorem recoverable_of_alike (h : Alike RulesOutBoth good x y) :
    Recoverable x ∧ Recoverable y := by
  rcases h.cases with ⟨a, b, rfl, rfl, _⟩ | ⟨f, g, rfl, rfl, hf, hg⟩
  · exact ⟨recoverable_ok a, recoverable_ok b⟩
  · exact ⟨RuledOut.recoverable ⟨f, rfl, hf⟩, RuledOut.recoverable ⟨g, rfl, hg⟩⟩

theorem ruledOut_iff_of_alike (h : Alike RulesOutBoth good x y) : RuledOut x ↔ RuledOut y := by
  rcases h.cases with ⟨a, b, rfl, rfl, _⟩ | ⟨f, g, rfl, rfl, hf, hg⟩
  · constructor <;> rintro ⟨_, ⟨⟩, _⟩
  · exact iff_of_true ⟨f, rfl, hf⟩ ⟨g, rfl, hg⟩

end Alike

variable [Scalar K]

/-- The value of a tree is over both registries that of the same reading. -/
theorem evaluate_alike {r r' : Registry K} {good : Quantity K → Quantity K → Prop} {t : Tree}
    (hchoices : ∀ trees ∈ t.choices, trees ≠ [])
    (h : ∀ a ∈ t.readings, Alike RulesOutBoth good (plainEvaluate r a) (plainEvaluate r' a)) :
    Alike RulesOutBoth
      (fun q q' => good q q' ∧ ∃ before a after, t.readings = before ++ a :: after ∧
        plainEvaluate r a = .ok q ∧ plainEvaluate r' a = .ok q' ∧
        ∀ u ∈ before, RuledOut (plainEvaluate r u) ∧ RuledOut (plainEvaluate r' u))
      (evaluate r t) (evaluate r' t) := by
  have hreadings : ∀ a ∈ t.readings, Recoverable (plainEvaluate r a) :=
    fun a ha => (recoverable_of_alike (h a ha)).1
  have hreadings' : ∀ a ∈ t.readings, Recoverable (plainEvaluate r' a) :=
    fun a ha => (recoverable_of_alike (h a ha)).2
  rcases evaluate_cases hchoices hreadings with ⟨q, hq⟩ | ⟨f, hf, hruled⟩
  · obtain ⟨before, a, after, hsplit, hbefore, ha⟩ :=
      (evaluate_eq_ok_iff_first hchoices hreadings).mp hq
    obtain ⟨q', ha', hgood⟩ := (h a (by simp [hsplit])).exists_right ha
    have hbefore' : ∀ u ∈ before, RuledOut (plainEvaluate r' u) := by
      intro u hu
      exact (ruledOut_iff_of_alike (h u (by simp [hsplit, hu]))).mp (hbefore u hu)
    have hq' := (evaluate_eq_ok_iff_first hchoices hreadings').mpr
      ⟨before, a, after, hsplit, hbefore', ha'⟩
    rw [hq, hq']
    exact ⟨hgood, before, a, after, hsplit, ha, ha', fun u hu => ⟨hbefore u hu, hbefore' u hu⟩⟩
  · rcases evaluate_cases hchoices hreadings' with ⟨q', hq'⟩ | ⟨f', hf', hruled'⟩
    -- A reading with a value over one registry has one over the other.
    · obtain ⟨before, a, after, hsplit, hbefore, ha⟩ :=
        (evaluate_eq_ok_iff_first hchoices hreadings').mp hq'
      obtain ⟨q, ha', _⟩ := (h a (by simp [hsplit])).exists_left ha
      have hbefore' : ∀ u ∈ before, RuledOut (plainEvaluate r u) := by
        intro u hu
        exact (ruledOut_iff_of_alike (h u (by simp [hsplit, hu]))).mpr (hbefore u hu)
      rw [(evaluate_eq_ok_iff_first hchoices hreadings).mpr
        ⟨before, a, after, hsplit, hbefore', ha'⟩] at hf
      cases hf
    · rw [hf, hf']
      exact ⟨hruled, hruled'⟩

end UnitCalc.Expr
