import Forms.Proofs.Submission
import Mathlib.Data.List.InsertIdx

/-!
# Revisions

A host keeps the revision that it has drawn and draws again when it is told another one.  That is
safe when the sessions of one revision are one session.  Callers share a session, so that anything
may fall between the three parts of a submission: the flag goes up, the values are checked, and the
flag goes down.  Each part publishes one revision together with what it changes, like every other
change, and whatever publishes none leaves the session as it is.
-/

namespace Forms

namespace Session

/-- The revision as a host is told it, in a 64-bit word. -/
def revisionWord (session : Session) : UInt64 := UInt64.ofNat session.revision

/-- Raises the flag; the first part of a submission. -/
def raiseFlag (session : Session) : Session := { session.raised with isSubmitting := true }

/-- What a host shows after a look at the session: what it has drawn before, unless the revision is
another one. -/
def redrawn (drawn current : Session) : Session :=
  if current.revisionWord = drawn.revisionWord then drawn else current

end Session

/-- The changes of a session besides those of submissions. -/
inductive SessionEdit where
  | updateField (key : String) (value : Json)
  | setError (key message : String)
  | clearError (key : String)
  | validateField (rules : FieldRules) (key : String)
  | validateAll (rules : FieldRules)

def SessionEdit.perform (session : Session) : SessionEdit → Session
  | .updateField key value => session.updateField key value
  | .setError key message => session.setError key message
  | .clearError key => session.clearError key
  | .validateField rules key => session.validateField rules key
  | .validateAll rules => session.validateAll rules

theorem SessionEdit.revision_perform (session : Session) (edit : SessionEdit) :
    (edit.perform session).revision = session.revision + 1 := by
  cases edit with
  | updateField | setError | clearError | validateAll => rfl
  | validateField rules key =>
      rw [perform, Session.validateField]
      split <;> rfl

/-- What may happen to a session that is shared; nobody sees one of these half done. -/
inductive SharedEvent where
  | read
  | edit (edit : SessionEdit)
  /-- A submission is asked for. -/
  | request (rules : FieldRules)
  /-- The values are checked for a submission that was accepted. -/
  | check (number : Nat)
  /-- A submission that was checked ends: its values are not valid, or its handler is done. -/
  | finish (number : Nat) (ending : HandlerEnd)

def SharedEvent.isEdit : SharedEvent → Bool
  | .edit _ => true
  | _ => false

/-- A session with the submissions that were accepted, by the rules they came with. -/
structure SharedSession where
  session : Session
  /-- Those whose values are not checked yet. -/
  started : List FieldRules
  /-- Those that were checked and have not ended. -/
  checked : List FieldRules
  ended : List FieldRules

namespace SharedSession

def ofValues (values : Values) : SharedSession := ⟨Session.ofValues values, [], [], []⟩

def step (shared : SharedSession) : SharedEvent → SharedSession
  | .read => shared
  | .edit edit => { shared with session := edit.perform shared.session }
  | .request rules =>
    if shared.session.isSubmitting then shared
    else { shared with session := shared.session.raiseFlag, started := rules :: shared.started }
  | .check number =>
    match shared.started[number]? with
    | some rules =>
      { shared with
        session := shared.session.validateAll rules
        started := shared.started.eraseIdx number
        checked := rules :: shared.checked }
    | none => shared
  | .finish number _ =>
    match shared.checked[number]? with
    | some rules =>
      { shared with
        session := shared.session.endSubmit
        checked := shared.checked.eraseIdx number
        ended := rules :: shared.ended }
    | none => shared

def run (shared : SharedSession) (events : List SharedEvent) : SharedSession :=
  events.foldl step shared

/-- Whether an event is a change.  Reading is none, and neither is a request while the flag is
up. -/
def publishes (shared : SharedSession) : SharedEvent → Bool
  | .read => false
  | .edit _ => true
  | .request _ => !shared.session.isSubmitting
  | .check number => number < shared.started.length
  | .finish number _ => number < shared.checked.length

/-- How many of the events are changes. -/
def changes (shared : SharedSession) : List SharedEvent → Nat
  | [] => 0
  | event :: events =>
    (if shared.publishes event then 1 else 0) + (shared.step event).changes events

/-- What the submissions have added to the revision: one for the start of each, one for its check
and one for its end. -/
def contributed (shared : SharedSession) : Nat :=
  shared.started.length + 2 * shared.checked.length + 3 * shared.ended.length

/-! ## One event -/

variable {shared : SharedSession} {event : SharedEvent}

theorem step_of_not_publishes (hquiet : shared.publishes event = false) :
    shared.step event = shared := by
  cases event with
  | read => rfl
  | edit edit => cases hquiet
  | request rules => rw [step, if_pos (by simpa [publishes] using hquiet)]
  | check number =>
      have hlength : shared.started.length ≤ number := by simpa [publishes] using hquiet
      rw [step, List.getElem?_eq_none hlength]
  | finish number ending =>
      have hlength : shared.checked.length ≤ number := by simpa [publishes] using hquiet
      rw [step, List.getElem?_eq_none hlength]

/-- What an event adds to the revision, and to what the submissions have contributed. -/
theorem step_of_publishes (hpublishes : shared.publishes event = true) :
    (shared.step event).session.revision = shared.session.revision + 1 ∧
      (shared.step event).contributed + (if event.isEdit then 1 else 0) =
        shared.contributed + 1 := by
  cases event with
  | read => cases hpublishes
  | edit edit => exact ⟨edit.revision_perform shared.session, rfl⟩
  | request rules =>
      have hflag : shared.session.isSubmitting = false := by simpa [publishes] using hpublishes
      rw [step, if_neg (by simp [hflag])]
      constructor
      · rfl
      · simp only [contributed, List.length_cons, SharedEvent.isEdit, Bool.false_eq_true, if_false]
        omega
  | check number =>
      have hlength : number < shared.started.length := by simpa [publishes] using hpublishes
      rw [step, List.getElem?_eq_getElem hlength]
      constructor
      · rfl
      · simp only [contributed, List.length_cons, List.length_eraseIdx_of_lt hlength,
          SharedEvent.isEdit, Bool.false_eq_true, if_false]
        omega
  | finish number ending =>
      have hlength : number < shared.checked.length := by simpa [publishes] using hpublishes
      rw [step, List.getElem?_eq_getElem hlength]
      constructor
      · rfl
      · simp only [contributed, List.length_cons, List.length_eraseIdx_of_lt hlength,
          SharedEvent.isEdit, Bool.false_eq_true, if_false]
        omega

theorem revision_step (shared : SharedSession) (event : SharedEvent) :
    (shared.step event).session.revision =
      shared.session.revision + if shared.publishes event then 1 else 0 := by
  cases hpublishes : shared.publishes event with
  | true => exact (step_of_publishes hpublishes).1
  | false =>
      rw [step_of_not_publishes hpublishes]
      rfl

/-! ## Many events -/

theorem run_append (shared : SharedSession) (before after : List SharedEvent) :
    shared.run (before ++ after) = (shared.run before).run after := List.foldl_append

theorem changes_append (shared : SharedSession) (before after : List SharedEvent) :
    shared.changes (before ++ after) =
      shared.changes before + (shared.run before).changes after := by
  induction before generalizing shared with
  | nil => exact (Nat.zero_add _).symm
  | cons event before ih =>
      rw [List.cons_append, changes, changes, ih, Nat.add_assoc]
      rfl

/-- The revision counts the changes. -/
theorem revision_run (shared : SharedSession) (events : List SharedEvent) :
    (shared.run events).session.revision = shared.session.revision + shared.changes events := by
  induction events generalizing shared with
  | nil => rfl
  | cons event events ih =>
      calc
        (shared.run (event :: events)).session.revision =
            (shared.step event).session.revision + (shared.step event).changes events :=
          ih (shared.step event)
        _ = shared.session.revision + shared.changes (event :: events) := by
          rw [revision_step, changes, Nat.add_assoc]

theorem run_of_changes_eq_zero {events : List SharedEvent} (hnone : shared.changes events = 0) :
    shared.run events = shared := by
  induction events generalizing shared with
  | nil => rfl
  | cons event events ih =>
      rw [changes, Nat.add_eq_zero_iff] at hnone
      have hquiet : shared.publishes event = false := by simpa using hnone.1
      have hstep := step_of_not_publishes hquiet
      rw [hstep] at hnone
      calc
        shared.run (event :: events) = (shared.step event).run events := rfl
        _ = shared := by rw [hstep, ih hnone.2]

/-- The changes are the edits, and what the submissions have contributed. -/
theorem changes_add_contributed (shared : SharedSession) (events : List SharedEvent) :
    shared.changes events + shared.contributed =
      events.countP SharedEvent.isEdit + (shared.run events).contributed := by
  induction events generalizing shared with
  | nil => rfl
  | cons event events ih =>
      have hrest := ih (shared.step event)
      rw [changes, List.countP_cons]
      change _ = _ + ((shared.step event).run events).contributed
      cases hpublishes : shared.publishes event with
      | true =>
          have hstep := (step_of_publishes hpublishes).2
          simp only [if_true]
          omega
      | false =>
          have hedit : event.isEdit = false := by
            cases event with
            | edit edit => cases hpublishes
            | read | request | check | finish => rfl
          rw [step_of_not_publishes hpublishes] at hrest ⊢
          simp only [hedit, Bool.false_eq_true, if_false]
          omega

/-! ## Submissions in two steps -/

/-- The parts have come to the state that steps lead to. -/
structure Shows (shared : SharedSession) (live : LiveSession) : Prop where
  session : shared.session = live.session
  started : shared.started = []
  checked : shared.checked = live.running.map HandlerCall.rules

theorem shows_ofValues (values : Values) : (ofValues values).Shows (LiveSession.ofValues values) :=
  ⟨rfl, rfl, rfl⟩

namespace Shows

variable {live : LiveSession}

theorem edit (h : shared.Shows live) (edit : SessionEdit) :
    (shared.step (.edit edit)).Shows
      { live with session := edit.perform live.session } :=
  ⟨congrArg edit.perform h.session, h.started, h.checked⟩

/-- Nothing comes between the parts of the first step of a submission. -/
theorem startSubmit (h : shared.Shows live) (rules : FieldRules) :
    ∃ parts, (shared.run parts).Shows (live.startSubmit rules) := by
  have hshared : shared = ⟨live.session, [], live.running.map HandlerCall.rules, shared.ended⟩ := by
    rw [← h.session, ← h.started, ← h.checked]
  cases hflag : live.session.isSubmitting with
  | true =>
      rw [LiveSession.startSubmit_of_isSubmitting hflag]
      exact ⟨[], h⟩
  | false =>
      have hrequest : shared.step (.request rules) =
          ⟨live.session.raiseFlag, [rules], live.running.map HandlerCall.rules, shared.ended⟩ := by
        rw [hshared, step, if_neg (by simp [hflag])]
      have hcheck : shared.run [.request rules, .check 0] =
          ⟨live.session.raiseFlag.validateAll rules, [],
            rules :: live.running.map HandlerCall.rules, shared.ended⟩ := by
        change (shared.step (.request rules)).step (.check 0) = _
        rw [hrequest]
        rfl
      by_cases hvalid : validateDocument live.session.values rules = []
      · refine ⟨[.request rules, .check 0], ?_⟩
        rw [LiveSession.startSubmit_of_valid hflag hvalid, hcheck]
        constructor
        · rw [← hvalid]
          rfl
        · rfl
        · rfl
      · refine ⟨[.request rules, .check 0] ++ [.finish 0 .dropped], ?_⟩
        rw [LiveSession.startSubmit_of_invalid hflag hvalid, run_append, hcheck]
        exact ⟨rfl, rfl, rfl⟩

theorem endSubmit (h : shared.Shows live) (number : Nat) (ending : HandlerEnd) :
    (shared.step (.finish number ending)).Shows (live.endSubmit number ending) := by
  rw [step, LiveSession.endSubmit, h.checked, List.getElem?_map]
  by_cases hnumber : number < live.running.length
  · rw [if_pos hnumber, List.getElem?_eq_getElem hnumber]
    constructor
    · exact congrArg Session.endSubmit h.session
    · exact h.started
    · exact List.eraseIdx_map _ _ _
  · rw [if_neg hnumber, List.getElem?_eq_none (Nat.le_of_not_lt hnumber)]
    exact h

theorem step (h : shared.Shows live) (event : SessionEvent) :
    ∃ parts, (shared.run parts).Shows (live.step event) := by
  cases event with
  | updateField key value => exact ⟨[.edit (.updateField key value)], h.edit _⟩
  | setError key message => exact ⟨[.edit (.setError key message)], h.edit _⟩
  | clearError key => exact ⟨[.edit (.clearError key)], h.edit _⟩
  | validateField rules key => exact ⟨[.edit (.validateField rules key)], h.edit _⟩
  | validateAll rules => exact ⟨[.edit (.validateAll rules)], h.edit _⟩
  | startSubmit rules => exact h.startSubmit rules
  | endSubmit number ending => exact ⟨[.finish number ending], h.endSubmit number ending⟩

theorem run (h : shared.Shows live) (history : List SessionEvent) :
    ∃ parts, (shared.run parts).Shows (live.run history) := by
  induction history generalizing shared live with
  | nil => exact ⟨[], h⟩
  | cons event history ih =>
      obtain ⟨first, hfirst⟩ := h.step event
      obtain ⟨rest, hrest⟩ := ih hfirst
      refine ⟨first ++ rest, ?_⟩
      rw [run_append]
      exact hrest

end Shows

/-! ## What a host may rely on -/

/-- What the revision tells in the course of a run. -/
structure TellsStates (values : Values) (events : List SharedEvent) : Prop where
  /-- The word starts from zero and counts the edits and the parts of submissions. -/
  counted : ((ofValues values).run events).session.revisionWord.toNat =
    events.countP SharedEvent.isEdit + ((ofValues values).run events).started.length
      + 2 * ((ofValues values).run events).checked.length
      + 3 * ((ofValues values).run events).ended.length
  /-- A change raises the word by one. -/
  raised : ∀ before event, before ++ [event] <+: events →
    ((ofValues values).run before).publishes event = true →
      ((ofValues values).run (before ++ [event])).session.revisionWord.toNat =
        ((ofValues values).run before).session.revisionWord.toNat + 1
  /-- What is no change leaves everything as it is. -/
  kept : ∀ before event, before ++ [event] <+: events →
    ((ofValues values).run before).publishes event = false →
      (ofValues values).run (before ++ [event]) = (ofValues values).run before
  /-- The word never decreases. -/
  rises : ∀ before now, before <+: now → now <+: events →
    ((ofValues values).run before).session.revisionWord ≤
      ((ofValues values).run now).session.revisionWord
  /-- Sessions of one revision are one session. -/
  told : ∀ first second, first <+: events → second <+: events →
    ((ofValues values).run first).session.revisionWord =
        ((ofValues values).run second).session.revisionWord →
      ((ofValues values).run first).session = ((ofValues values).run second).session
  /-- A host that has drawn an earlier session shows the current one after a look. -/
  fresh : ∀ before now, before <+: now → now <+: events →
    ((ofValues values).run before).session.redrawn ((ofValues values).run now).session =
      ((ofValues values).run now).session
  /-- What submissions in two steps lead to is reached part by part as well. -/
  reached : ∀ history, ∃ parts,
    ((ofValues values).run parts).Shows ((LiveSession.ofValues values).run history)

theorem revision_ofValues_run (values : Values) (events : List SharedEvent) :
    ((ofValues values).run events).session.revision = (ofValues values).changes events := by
  rw [revision_run]
  exact Nat.zero_add _

theorem changes_le_of_isPrefix {before events : List SharedEvent} (hbefore : before <+: events) :
    shared.changes before ≤ shared.changes events := by
  obtain ⟨after, rfl⟩ := hbefore
  rw [changes_append]
  exact Nat.le_add_right _ _

/-- While the changes fit the word, the word counts them. -/
theorem toNat_revisionWord {values : Values} {before events : List SharedEvent}
    (hfew : (ofValues values).changes events < UInt64.size) (hbefore : before <+: events) :
    ((ofValues values).run before).session.revisionWord.toNat =
      (ofValues values).changes before := by
  have hbound : (ofValues values).changes before < UInt64.size :=
    Nat.lt_of_le_of_lt (changes_le_of_isPrefix hbefore) hfew
  rw [Session.revisionWord, revision_ofValues_run]
  exact UInt64.toNat_ofNat_of_lt' hbound

/-- No change lies between two states of one revision, the earlier one first. -/
theorem session_eq_of_changes_eq {before now : List SharedEvent} (hbefore : before <+: now)
    (hsame : shared.changes before = shared.changes now) :
    shared.run before = shared.run now := by
  obtain ⟨after, rfl⟩ := hbefore
  rw [changes_append] at hsame
  have hnone : (shared.run before).changes after = 0 := by omega
  rw [run_append, run_of_changes_eq_zero hnone]

/-- While a run has fewer changes than the word can count, the revision identifies the session. -/
theorem run_tellsStates {values : Values} {events : List SharedEvent}
    (hfew : (ofValues values).changes events < UInt64.size) : TellsStates values events := by
  have hword := @toNat_revisionWord values
  have htold : ∀ first second, first <+: events → second <+: events →
      ((ofValues values).run first).session.revisionWord =
          ((ofValues values).run second).session.revisionWord →
        ((ofValues values).run first).session = ((ofValues values).run second).session := by
    intro first second hfirst hsecond hsame
    have hchanges : (ofValues values).changes first = (ofValues values).changes second := by
      rw [← hword hfew hfirst, hsame, hword hfew hsecond]
    rcases List.prefix_or_prefix_of_prefix hfirst hsecond with hearlier | hlater
    · rw [session_eq_of_changes_eq hearlier hchanges]
    · rw [session_eq_of_changes_eq hlater hchanges.symm]
  constructor
  · have hcount := changes_add_contributed (ofValues values) events
    have hstart : (ofValues values).contributed = 0 := rfl
    rw [hstart, Nat.add_zero, contributed] at hcount
    rw [hword hfew List.prefix_rfl, hcount]
    omega
  · intro before event hbefore hpublishes
    rw [hword hfew hbefore, hword hfew ((List.prefix_append _ _).trans hbefore), changes_append,
      changes, if_pos hpublishes]
    rfl
  · intro before event hbefore hquiet
    rw [run_append]
    exact step_of_not_publishes hquiet
  · intro before now hearlier hnow
    rw [UInt64.le_iff_toNat_le, hword hfew hnow, hword hfew (hearlier.trans hnow)]
    exact changes_le_of_isPrefix hearlier
  · exact htold
  · intro before now hearlier hnow
    rw [Session.redrawn]
    split
    · rename_i hsame
      exact (htold now before hnow (hearlier.trans hnow) hsame).symm
    · rfl
  · exact (shows_ofValues values).run

/-- An error is set while a submission is being checked, and a request arrives before it ends. -/
def crossing : List SharedEvent :=
  [.read, .request [], .edit (.setError "age" "How old?"), .check 0, .request [],
    .finish 0 .dropped]

theorem run_tellsStates_crossing :
    (ofValues []).changes crossing < UInt64.size ∧ TellsStates [] crossing :=
  have hfew : (ofValues []).changes crossing < UInt64.size := by decide
  ⟨hfew, run_tellsStates hfew⟩

end SharedSession

end Forms
