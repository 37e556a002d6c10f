import Forms.Session

/-!
# Submissions in flight

A submission that is not answered at once leaves a call of the handler behind, and anything may
happen to the session before that call ends: fields are updated, errors are set, other submissions
start, and the handler itself may do all of this.  The flag says whether a call is running.  It is
raised only with a call and lowered only with its end, so there is never more than one.
-/

namespace Forms

/-- A call of the handler, with the rules of the submission that made it. -/
structure HandlerCall where
  rules : FieldRules
  values : Values

/-- How a call of the handler ends; it is dropped when nobody waits for it any more. -/
inductive HandlerEnd where
  | succeeded
  | failed
  | dropped
deriving DecidableEq

/-- What may happen to a session. -/
inductive SessionEvent where
  | updateField (key : String) (value : Json)
  | setError (key message : String)
  | clearError (key : String)
  | validateField (rules : FieldRules) (key : String)
  | validateAll (rules : FieldRules)
  | startSubmit (rules : FieldRules)
  | endSubmit (call : Nat) (ending : HandlerEnd)

/-- A session with the calls that are running, and all that were ever made. -/
structure LiveSession where
  session : Session
  running : List HandlerCall
  made : List HandlerCall

namespace LiveSession

def ofValues (values : Values) : LiveSession := ⟨Session.ofValues values, [], []⟩

/-- The first step of a submission; the handler is called when the values are handed out. -/
def startSubmit (live : LiveSession) (rules : FieldRules) : LiveSession :=
  match live.session.startSubmit rules with
  | (session, .pending values) =>
      ⟨session, ⟨rules, values⟩ :: live.running, ⟨rules, values⟩ :: live.made⟩
  | (session, .ended _) => { live with session }

/-- The end of a running call.  However it ends, the submission takes its second step. -/
def endSubmit (live : LiveSession) (call : Nat) (_ : HandlerEnd) : LiveSession :=
  if call < live.running.length then
    { live with session := live.session.endSubmit, running := live.running.eraseIdx call }
  else live

def step (live : LiveSession) : SessionEvent → LiveSession
  | .updateField key value => { live with session := live.session.updateField key value }
  | .setError key message => { live with session := live.session.setError key message }
  | .clearError key => { live with session := live.session.clearError key }
  | .validateField rules key => { live with session := live.session.validateField rules key }
  | .validateAll rules => { live with session := live.session.validateAll rules }
  | .startSubmit rules => live.startSubmit rules
  | .endSubmit call ending => live.endSubmit call ending

def run (live : LiveSession) (events : List SessionEvent) : LiveSession := events.foldl step live

end LiveSession

/-! ## The first step of a submission -/

namespace Session

variable {session : Session} {rules : FieldRules}

theorem startSubmit_of_isSubmitting (hflag : session.isSubmitting = true) (rules : FieldRules) :
    session.startSubmit rules = (session, .ended .alreadySubmitting) := by
  rw [startSubmit, if_pos hflag]

/-- Valid values are handed out as they are. -/
theorem startSubmit_of_valid (hflag : session.isSubmitting = false)
    (hvalid : validateDocument session.values rules = []) :
    session.startSubmit rules =
      (⟨session.values, [], true, session.revision + 2⟩, .pending session.values) := by
  simp [startSubmit, hflag, validateAll, raised, isValid, hvalid]

/-- Errors are published, and the flag is down again. -/
theorem startSubmit_of_invalid (hflag : session.isSubmitting = false)
    (hinvalid : validateDocument session.values rules ≠ []) :
    session.startSubmit rules =
      (⟨session.values, validateDocument session.values rules, false, session.revision + 3⟩,
        .ended .invalid) := by
  simp [startSubmit, hflag, validateAll, raised, isValid, hinvalid, endSubmit]

end Session

namespace LiveSession

variable {live : LiveSession} {rules : FieldRules}

theorem startSubmit_of_isSubmitting (hflag : live.session.isSubmitting = true)
    (rules : FieldRules) : live.startSubmit rules = live := by
  rw [startSubmit, Session.startSubmit_of_isSubmitting hflag]

theorem startSubmit_of_valid (hflag : live.session.isSubmitting = false)
    (hvalid : validateDocument live.session.values rules = []) :
    live.startSubmit rules =
      ⟨⟨live.session.values, [], true, live.session.revision + 2⟩,
        ⟨rules, live.session.values⟩ :: live.running,
        ⟨rules, live.session.values⟩ :: live.made⟩ := by
  rw [startSubmit, Session.startSubmit_of_valid hflag hvalid]

theorem startSubmit_of_invalid (hflag : live.session.isSubmitting = false)
    (hinvalid : validateDocument live.session.values rules ≠ []) :
    live.startSubmit rules =
      { live with
        session := ⟨live.session.values, validateDocument live.session.values rules, false,
          live.session.revision + 3⟩ } := by
  rw [startSubmit, Session.startSubmit_of_invalid hflag hinvalid]

/-! ## What every event preserves -/

/-- The flag is up exactly while a call is running, at most one call is running, and whatever was
handed out was valid. -/
structure Consistent (live : LiveSession) : Prop where
  running : live.running.length = if live.session.isSubmitting then 1 else 0
  valid : ∀ call ∈ live.made, validateDocument call.values call.rules = []

theorem consistent_ofValues (values : Values) : (ofValues values).Consistent :=
  ⟨rfl, by simp [ofValues]⟩

namespace Consistent

/-- What changes neither the flag nor the calls may happen at any time. -/
theorem withSession (h : live.Consistent) {session : Session}
    (hflag : session.isSubmitting = live.session.isSubmitting) :
    ({ live with session } : LiveSession).Consistent :=
  ⟨by rw [hflag]; exact h.running, h.valid⟩

theorem running_eq_nil (h : live.Consistent) (hflag : live.session.isSubmitting = false) :
    live.running = [] := by
  have hlength := h.running
  rw [hflag] at hlength
  exact List.length_eq_zero_iff.mp hlength

theorem startSubmit (h : live.Consistent) (rules : FieldRules) :
    (live.startSubmit rules).Consistent := by
  cases hflag : live.session.isSubmitting with
  | true => rwa [startSubmit_of_isSubmitting hflag]
  | false =>
      by_cases hvalid : validateDocument live.session.values rules = []
      · rw [startSubmit_of_valid hflag hvalid, h.running_eq_nil hflag]
        exact ⟨rfl, List.forall_mem_cons.mpr ⟨hvalid, h.valid⟩⟩
      · rw [startSubmit_of_invalid hflag hvalid]
        exact h.withSession hflag.symm

theorem isSubmitting_of_lt (h : live.Consistent) {call : Nat} (hcall : call < live.running.length) :
    live.session.isSubmitting = true := by
  cases hflag : live.session.isSubmitting with
  | true => rfl
  | false => simp [h.running_eq_nil hflag] at hcall

/-- The call that ends was the only one. -/
theorem eraseIdx_eq_nil (h : live.Consistent) {call : Nat} (hcall : call < live.running.length) :
    live.running.eraseIdx call = [] := by
  have hlength := h.running
  rw [h.isSubmitting_of_lt hcall, if_pos rfl] at hlength
  rw [← List.length_eq_zero_iff, List.length_eraseIdx_of_lt hcall, hlength]

theorem endSubmit (h : live.Consistent) (call : Nat) (ending : HandlerEnd) :
    (live.endSubmit call ending).Consistent := by
  rw [LiveSession.endSubmit]
  split
  · rename_i hcall
    refine ⟨?_, h.valid⟩
    rw [h.eraseIdx_eq_nil hcall]
    rfl
  · exact h

/-- Every event keeps the flag and the calls together. -/
theorem step (h : live.Consistent) (event : SessionEvent) : (live.step event).Consistent := by
  cases event with
  | updateField | setError | clearError | validateAll => exact h.withSession rfl
  | validateField rules key =>
      apply h.withSession
      rw [Session.validateField]
      split <;> rfl
  | startSubmit rules => exact h.startSubmit rules
  | endSubmit call ending => exact h.endSubmit call ending

theorem run (h : live.Consistent) (events : List SessionEvent) : (live.run events).Consistent := by
  induction events generalizing live with
  | nil => exact h
  | cons event events ih => exact ih (h.step event)

end Consistent

/-! ## The protocol -/

/-- What holds of submissions, whatever has happened so far. -/
structure KeepsProtocol (live : LiveSession) : Prop where
  /-- The flag is up exactly while one call is running. -/
  flag : live.session.isSubmitting = true ↔ live.running.length = 1
  /-- There is never more than one. -/
  single : live.running.length ≤ 1
  /-- Every call was handed values that its rules find no fault with. -/
  valid : ∀ call ∈ live.made, validateDocument call.values call.rules = []
  /-- Nothing but the start of a submission calls the handler. -/
  quiet : ∀ event, (∀ rules, event ≠ .startSubmit rules) → (live.step event).made = live.made
  /-- A submission that starts while the flag is up is refused and changes nothing. -/
  refused : live.session.isSubmitting = true → ∀ rules,
    (live.session.startSubmit rules).2 = .ended .alreadySubmitting ∧
      live.step (.startSubmit rules) = live
  /-- Valid values go to the handler as they stand, and the flag goes up. -/
  handed : live.session.isSubmitting = false → ∀ rules,
    validateDocument live.session.values rules = [] →
      (live.session.startSubmit rules).2 = .pending live.session.values ∧
      (live.step (.startSubmit rules)).made = ⟨rules, live.session.values⟩ :: live.made ∧
      (live.step (.startSubmit rules)).running = [⟨rules, live.session.values⟩] ∧
      (live.step (.startSubmit rules)).session.values = live.session.values ∧
      (live.step (.startSubmit rules)).session.isSubmitting = true
  /-- Errors are published without a call, and the flag stays down. -/
  published : live.session.isSubmitting = false → ∀ rules,
    validateDocument live.session.values rules ≠ [] →
      (live.session.startSubmit rules).2 = .ended .invalid ∧
      (live.step (.startSubmit rules)).session.errors =
        validateDocument live.session.values rules ∧
      (live.step (.startSubmit rules)).session.values = live.session.values ∧
      (live.step (.startSubmit rules)).session.isSubmitting = false ∧
      (live.step (.startSubmit rules)).made = live.made ∧
      (live.step (.startSubmit rules)).running = live.running
  /-- However a call ends, the flag goes down, and the next submission is not refused. -/
  ended : ∀ call ending, call < live.running.length →
    (live.step (.endSubmit call ending)).session.isSubmitting = false ∧
      (live.step (.endSubmit call ending)).session.values = live.session.values ∧
      (live.step (.endSubmit call ending)).session.errors = live.session.errors ∧
      (live.step (.endSubmit call ending)).running = [] ∧
      ∀ rules, ((live.step (.endSubmit call ending)).session.startSubmit rules).2 ≠
        .ended .alreadySubmitting

theorem startSubmit_ne_alreadySubmitting {session : Session}
    (hflag : session.isSubmitting = false) (rules : FieldRules) :
    (session.startSubmit rules).2 ≠ .ended .alreadySubmitting := by
  by_cases hvalid : validateDocument session.values rules = []
  · rw [Session.startSubmit_of_valid hflag hvalid]
    exact nofun
  · rw [Session.startSubmit_of_invalid hflag hvalid]
    exact nofun

theorem made_step {event : SessionEvent} (hevent : ∀ rules, event ≠ .startSubmit rules) :
    (live.step event).made = live.made := by
  cases event with
  | updateField | setError | clearError | validateField | validateAll => rfl
  | startSubmit rules => exact absurd rfl (hevent rules)
  | endSubmit call ending =>
      rw [step, endSubmit]
      split <;> rfl

theorem Consistent.keepsProtocol (h : live.Consistent) : live.KeepsProtocol where
  flag := by
    rw [h.running]
    cases live.session.isSubmitting <;> simp
  single := by
    rw [h.running]
    split <;> omega
  valid := h.valid
  quiet _ hevent := made_step hevent
  refused hflag rules :=
    ⟨by rw [Session.startSubmit_of_isSubmitting hflag], startSubmit_of_isSubmitting hflag rules⟩
  handed hflag rules hvalid := by
    have hstep : live.step (.startSubmit rules) = _ := startSubmit_of_valid hflag hvalid
    rw [hstep, Session.startSubmit_of_valid hflag hvalid, h.running_eq_nil hflag]
    exact ⟨rfl, rfl, rfl, rfl, rfl⟩
  published hflag rules hinvalid := by
    have hstep : live.step (.startSubmit rules) = _ := startSubmit_of_invalid hflag hinvalid
    rw [hstep, Session.startSubmit_of_invalid hflag hinvalid]
    exact ⟨rfl, rfl, rfl, rfl, rfl, rfl⟩
  ended call ending hcall := by
    have hstep : live.step (.endSubmit call ending) =
        { live with session := live.session.endSubmit, running := [] } := by
      rw [LiveSession.step, LiveSession.endSubmit, if_pos hcall, h.eraseIdx_eq_nil hcall]
    rw [hstep]
    exact ⟨rfl, rfl, rfl, rfl, startSubmit_ne_alreadySubmitting rfl⟩

/-- Whatever happens to a session in whatever order, submissions keep the protocol. -/
theorem run_keepsProtocol (values : Values) (events : List SessionEvent) :
    ((ofValues values).run events).KeepsProtocol :=
  ((consistent_ofValues values).run events).keepsProtocol

/-- A second start is refused, and a third one is accepted after the call has failed. -/
example :
    (((ofValues []).run [.startSubmit [], .startSubmit [], .endSubmit 0 .failed,
      .startSubmit []]).made.length) = 2 := by
  decide

end LiveSession

end Forms
