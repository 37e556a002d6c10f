import Forms.Choice.Source
import Forms.Proofs.Document.Compact

/-!
# What a signature tells

The signature of a request is a value printed on one line, so it tells the parts of that value: where
the request goes, the method that is declared for it, and its parameters.  A part that is missing is
told from every part that is there.  The headers and the mapping of the rows are not among the parts.
-/

namespace Forms

theorem Method.name_injective : Function.Injective Method.name := by
  intro left right
  cases left <;> cases right <;> decide

/-- A missing value is written as null, so a writer that never gives null tells it from the others. -/
theorem Json.ofOption_injective {α : Type} {toJson : α → Json}
    (hinjective : Function.Injective toJson) (hnull : ∀ value, toJson value ≠ .null) :
    Function.Injective (Json.ofOption toJson) := by
  rintro (_ | left) (_ | right) heq
  · rfl
  · exact absurd heq.symm (hnull right)
  · exact absurd heq (hnull left)
  · exact congrArg some (hinjective heq)

namespace ChoiceSource

variable {left right : ChoiceSource}

theorem parts_of_signature_eq (hsignature : left.signature = right.signature) :
    left.declaredMethod = right.declaredMethod ∧ left.params = right.params ∧
      left.url.text = right.url.text := by
  have hmethod : Function.Injective
      (Json.ofOption fun method => .string (Method.name method)) :=
    Json.ofOption_injective (fun _ _ heq => Method.name_injective (Json.string.inj heq)) nofun
  have hparams : Function.Injective (Json.ofOption (.object : Members → Json)) :=
    Json.ofOption_injective (fun _ _ heq => Json.object.inj heq) nofun
  have hmembers := Json.object.inj (Json.compact_injective hsignature)
  simp only [List.cons.injEq, Prod.mk.injEq, true_and, and_true, Json.string.injEq] at hmembers
  exact ⟨hmethod hmembers.1, hparams hmembers.2.1, hmembers.2.2⟩

/-- Requests of one signature go to one address. -/
theorem url_eq_of_signature_eq (hsignature : left.signature = right.signature) :
    left.url = right.url := by
  apply Option.some.inj
  rw [← left.url.ofString?_text, ← right.url.ofString?_text,
    (parts_of_signature_eq hsignature).2.2]

/-- Two requests have one signature exactly when they agree in address, declared method and
parameters. -/
theorem signature_eq_iff (left right : ChoiceSource) :
    left.signature = right.signature ↔
      left.url = right.url ∧ left.declaredMethod = right.declaredMethod ∧
        left.params = right.params := by
  constructor
  · intro hsignature
    obtain ⟨hmethod, hparams, -⟩ := parts_of_signature_eq hsignature
    exact ⟨url_eq_of_signature_eq hsignature, hmethod, hparams⟩
  · rintro ⟨hurl, hmethod, hparams⟩
    rw [signature, signature, hurl, hmethod, hparams]

end ChoiceSource

end Forms
