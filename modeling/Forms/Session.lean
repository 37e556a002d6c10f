import Forms.Rule.Validation

/-!
# Editing sessions

A session holds the live values of a document, their errors, and whether a submission is in
flight.  Every change raises the revision by one, so that a host which has seen a revision has seen
the state.

A submission has two steps, because the handler that receives the values runs in between.  The first
step raises the flag, validates everything, and hands out the values when they are valid.  The
second step lowers the flag, however the handler ended.  While the flag is up another submission is
dropped.
-/

namespace Forms

structure Session where
  values : Values
  errors : Errors
  isSubmitting : Bool
  revision : Nat
deriving DecidableEq

/-- How a request to submit ends. -/
inductive SubmitOutcome where
  | submitted
  /-- Some value is not valid; the handler is not called. -/
  | invalid
  /-- Another submission is in flight; this one is dropped. -/
  | alreadySubmitting
  | handlerFailed
deriving DecidableEq

def SubmitOutcome.name : SubmitOutcome → String
  | .submitted => "submitted"
  | .invalid => "invalid"
  | .alreadySubmitting => "already_submitting"
  | .handlerFailed => "handler_failed"

/-- What the first step of a submission leads to. -/
inductive SubmitStart where
  /-- The request is answered without the handler. -/
  | ended (outcome : SubmitOutcome)
  /-- The handler is to be called with the values. -/
  | pending (values : Values)
deriving DecidableEq

namespace Session

/-- A session without errors. -/
def ofValues (values : Values) : Session := ⟨values, [], false, 0⟩

def raised (session : Session) : Session := { session with revision := session.revision + 1 }

/-- The value of a key; null when there is none. -/
def value (session : Session) (key : String) : Json := session.values.valueOf key

/-- Writes a value and forgets the error of its key. -/
def updateField (session : Session) (key : String) (value : Json) : Session :=
  { session.raised with
    values := session.values.insert key value
    errors := session.errors.erase key }

def setError (session : Session) (key message : String) : Session :=
  { session.raised with errors := session.errors.insert key message }

def clearError (session : Session) (key : String) : Session :=
  { session.raised with errors := session.errors.erase key }

/-- The message of a key by its rules; a key without rules has none. -/
def check (session : Session) (rules : FieldRules) (key : String) : Option String :=
  (rules.get? key).bind fun rules => validateValue (session.value key) rules

/-- Sets or clears the error of one key by its rules. -/
def validateField (session : Session) (rules : FieldRules) (key : String) : Session :=
  match session.check rules key with
  | some message => session.setError key message
  | none => session.clearError key

/-- Replaces all errors by those of the rules. -/
def validateAll (session : Session) (rules : FieldRules) : Session :=
  { session.raised with errors := validateDocument session.values rules }

def isValid (session : Session) : Bool := session.errors.isEmpty

/-- Lowers the flag; the second step of every submission. -/
def endSubmit (session : Session) : Session := { session.raised with isSubmitting := false }

/-- The first step of a submission. -/
def startSubmit (session : Session) (rules : FieldRules) : Session × SubmitStart :=
  if session.isSubmitting then (session, .ended .alreadySubmitting)
  else
    let checked := validateAll { session.raised with isSubmitting := true } rules
    if checked.isValid then (checked, .pending checked.values)
    else (checked.endSubmit, .ended .invalid)

end Session

end Forms
