import Forms.Proofs.Caching
import Forms.Proofs.Histories

/-!
# How often rows are fetched

A service with its cache in memory fetches the rows of a request until that succeeds once, and from
then on answers from its cache, until the cache is emptied.  What the fetcher answers may change from
call to call.  Each signature is served as if there were no others.
-/

namespace Forms

/-! ## Calls and how they are served -/

/-- A call on a service.  A load meets what the fetcher answers at that moment. -/
inductive ChoiceCall where
  | load (fetcher : Fetcher) (source : ChoiceSource)
  | clear

namespace ChoiceCall

def IsLoadOf (signature : String) : ChoiceCall → Prop
  | .load _ source => source.signature = signature
  | .clear => False

/-- Loads of the signature, and clears. -/
def concerns (signature : String) : ChoiceCall → Bool
  | .load _ source => source.signature == signature
  | .clear => true

/-- Whether a fetch succeeds when the call makes one. -/
def isAnswered : ChoiceCall → Bool
  | .load fetcher source => (fetcher source).isOk
  | .clear => false

theorem IsLoadOf.ne_clear {signature : String} {call : ChoiceCall}
    (hload : call.IsLoadOf signature) : call ≠ .clear := by
  rintro rfl
  exact hload

end ChoiceCall

/-- A call as it was served: how many fetches it made, and the choices that it returned. -/
structure ServedCall where
  call : ChoiceCall
  fetches : Nat
  choices : List Choice

namespace ServedCall

/-- The call made a fetch that succeeded. -/
def Fetched (served : ServedCall) : Prop := 0 < served.fetches ∧ served.call.isAnswered = true

/-- The call made a fetch that failed. -/
def FetchedInVain (served : ServedCall) : Prop :=
  0 < served.fetches ∧ served.call.isAnswered = false

end ServedCall

namespace ChoiceService

def call {State : Type} (service : ChoiceService State) :
    ChoiceCall → ServedCall × ChoiceService State
  | .load fetcher source =>
    let (choices, next) := service.load fetcher source
    (⟨.load fetcher source, next.fetches - service.fetches, choices⟩, next)
  | .clear =>
    match service.clear with
    | .ok cleared => (⟨.clear, 0, []⟩, cleared)
    | .error _ => (⟨.clear, 0, []⟩, service)

/-- Calls in order, each with how it was served. -/
def callAll {State : Type} (service : ChoiceService State) :
    List ChoiceCall → List ServedCall × ChoiceService State
  | [] => ([], service)
  | call :: calls =>
    let (served, next) := service.call call
    let (others, final) := next.callAll calls
    (served :: others, final)

theorem call_call {State : Type} (service : ChoiceService State) (call : ChoiceCall) :
    (service.call call).1.call = call := by
  cases call with
  | load fetcher source => rfl
  | clear =>
      rw [ChoiceService.call]
      cases service.clear <;> rfl

theorem callAll_cons {State : Type} (service : ChoiceService State) (call : ChoiceCall)
    (calls : List ChoiceCall) :
    service.callAll (call :: calls) =
      ((service.call call).1 :: ((service.call call).2.callAll calls).1,
        ((service.call call).2.callAll calls).2) := rfl

theorem map_call_callAll {State : Type} (service : ChoiceService State)
    (calls : List ChoiceCall) : (service.callAll calls).1.map ServedCall.call = calls := by
  induction calls generalizing service with
  | nil => rfl
  | cons call calls ih => rw [callAll_cons, List.map_cons, call_call, ih]

/-! ## One call -/

namespace InMemory

variable {service : ChoiceService ChoiceCache.Memory}

theorem call_load (h : service.InMemory) (fetcher : Fetcher) (source : ChoiceSource) :
    service.call (.load fetcher source) =
      match service.held.get? source.signature, fetcher source with
      | some choices, _ => (⟨.load fetcher source, 0, choices⟩, service)
      | none, .ok rows =>
        (⟨.load fetcher source, 1, source.choicesOfRows rows⟩,
          { service with
            fetches := service.fetches + 1
            held := service.held.insert source.signature (source.choicesOfRows rows) })
      | none, .error _ =>
        (⟨.load fetcher source, 1, []⟩, { service with fetches := service.fetches + 1 }) := by
  rw [call, h.load_eq]
  cases service.held.get? source.signature with
  | some choices => simp only [Nat.sub_self]
  | none => cases fetcher source <;> simp only [Nat.add_sub_cancel_left]

theorem call_clear (h : service.InMemory) :
    service.call .clear = (⟨.clear, 0, []⟩, { service with held := [] }) := by
  rw [call, h.clear_eq]

theorem call (h : service.InMemory) (call : ChoiceCall) :
    (service.call call).2.InMemory := by
  cases call with
  | load fetcher source =>
      rw [h.call_load]
      split
      · exact h
      · exact ⟨h.cache, h.seconds⟩
      · exact ⟨h.cache, h.seconds⟩
  | clear =>
      rw [h.call_clear]
      exact ⟨h.cache, h.seconds⟩

theorem callAll (h : service.InMemory) (calls : List ChoiceCall) :
    (service.callAll calls).2.InMemory := by
  induction calls generalizing service with
  | nil => exact h
  | cons call calls ih => exact ih (h.call call)

theorem held_call_of_error (h : service.InMemory) {fetcher : Fetcher} {source : ChoiceSource}
    {failure : Failure} (hfailure : fetcher source = .error failure) :
    (service.call (.load fetcher source)).2.held = service.held := by
  rw [h.call_load, hfailure]
  cases service.held.get? source.signature <;> rfl

/-! ## One signature among others -/

variable {other : ChoiceService ChoiceCache.Memory} {signature : String} {call : ChoiceCall}

/-- A call that does not concern a signature leaves what is remembered under it. -/
theorem get?_held_call (h : service.InMemory) (hother : call.concerns signature = false) :
    (service.call call).2.held.get? signature = service.held.get? signature := by
  cases call with
  | clear => cases hother
  | load fetcher source =>
      have hne : signature ≠ source.signature := by
        rintro rfl
        simp [ChoiceCall.concerns] at hother
      rw [h.call_load]
      split
      · rfl
      · rw [Entries.get?_insert, if_neg hne]
      · rfl

/-- A call that concerns a signature is served by what is remembered under it alone. -/
theorem call_congr (h : service.InMemory) (hother : other.InMemory)
    (hheld : service.held.get? signature = other.held.get? signature)
    (hconcerns : call.concerns signature = true) :
    (service.call call).1 = (other.call call).1 ∧
      (service.call call).2.held.get? signature = (other.call call).2.held.get? signature := by
  cases call with
  | clear =>
      rw [h.call_clear, hother.call_clear]
      exact ⟨rfl, rfl⟩
  | load fetcher source =>
      obtain rfl := beq_iff_eq.mp hconcerns
      rw [h.call_load, hother.call_load, hheld]
      split
      · exact ⟨rfl, hheld⟩
      · exact ⟨rfl, by rw [Entries.get?_insert, Entries.get?_insert, if_pos rfl, if_pos rfl]⟩
      · exact ⟨rfl, hheld⟩

/-- Without the loads of other signatures, the calls that are left are served as they were. -/
theorem callAll_filter (h : service.InMemory) (hother : other.InMemory)
    (hheld : service.held.get? signature = other.held.get? signature) (calls : List ChoiceCall) :
    (service.callAll (calls.filter (·.concerns signature))).1 =
      (other.callAll calls).1.filter fun served => served.call.concerns signature := by
  induction calls generalizing service other with
  | nil => rfl
  | cons call calls ih =>
      rw [callAll_cons, List.filter_cons, List.filter_cons, call_call]
      cases hconcerns : call.concerns signature with
      | true =>
          obtain ⟨hserved, hnext⟩ := call_congr h hother hheld hconcerns
          rw [if_pos rfl, if_pos rfl, callAll_cons, hserved,
            ih (h.call call) (hother.call call) hnext]
      | false =>
          rw [if_neg Bool.false_ne_true, if_neg Bool.false_ne_true]
          exact ih h (hother.call call) (hheld.trans (hother.get?_held_call hconcerns).symm)

end InMemory

end ChoiceService

/-! ## What a history tells of a signature -/

namespace ServedCall

/-- A load of the signature fetched rows, and got these choices from them. -/
def LedTo (signature : String) (choices : List Choice) (served : ServedCall) : Prop :=
  served.call.IsLoadOf signature ∧ served.Fetched ∧ served.choices = choices

/-- Rows have been fetched for the signature and led to the choices, without a clear since. -/
def Leaves (signature : String) (choices : List Choice) (history : List ServedCall) : Prop :=
  Since (LedTo signature choices) (fun later => later.call ≠ .clear) history

/-- A load is served in view of the calls before it: from the cache when rows have been fetched for
its signature, and by a fetch otherwise. -/
structure AccountedFor (earlier : List ServedCall) (signature : String) (served : ServedCall) :
    Prop where
  hit : ∀ choices, Leaves signature choices earlier →
    served.fetches = 0 ∧ served.choices = choices
  miss : (∀ choices, ¬Leaves signature choices earlier) →
    served.fetches = 1 ∧ (served.call.isAnswered = false → served.choices = [])

end ServedCall

namespace ChoiceService

open ServedCall

/-- The cache holds what the calls have led to, under each signature. -/
structure Recalls (service : ChoiceService ChoiceCache.Memory) (history : List ServedCall) :
    Prop extends service.InMemory where
  held : ∀ signature choices,
    service.held.get? signature = some choices ↔ Leaves signature choices history

theorem recalls_inMemory {seconds : UInt32} (hseconds : seconds ≠ 0) :
    (inMemory seconds).Recalls [] where
  toInMemory := inMemory_inMemory hseconds
  held _ _ := iff_of_false nofun Since.not_nil

namespace Recalls

variable {service : ChoiceService ChoiceCache.Memory} {history : List ServedCall}

theorem call_load (h : service.Recalls history) (fetcher : Fetcher) (source : ChoiceSource) :
    AccountedFor history source.signature (service.call (.load fetcher source)).1 := by
  rw [h.toInMemory.call_load]
  cases hheld : service.held.get? source.signature with
  | some kept =>
      have hkept := (h.held _ _).mp hheld
      refine ⟨fun choices hchoices => ⟨rfl, ?_⟩, fun hnone => absurd hkept (hnone kept)⟩
      rw [← h.held, hheld] at hchoices
      exact Option.some.inj hchoices
  | none =>
      have hnone (choices : List Choice) : ¬Leaves source.signature choices history := by
        rw [← h.held, hheld]
        nofun
      refine ⟨fun choices hchoices => absurd hchoices (hnone choices), fun _ => ?_⟩
      cases hrows : fetcher source with
      | ok rows => exact ⟨rfl, fun hfailed => by simp [ChoiceCall.isAnswered, hrows, Except.isOk,
          Except.toBool] at hfailed⟩
      | error failure => exact ⟨rfl, fun _ => rfl⟩

/-- Afterwards the cache holds what all calls have led to. -/
theorem call (h : service.Recalls history) (call : ChoiceCall) :
    (service.call call).2.Recalls (history ++ [(service.call call).1]) := by
  refine ⟨h.toInMemory.call call, fun signature choices => ?_⟩
  rw [Leaves, Since.append_singleton_iff]
  cases call with
  | clear =>
      rw [h.toInMemory.call_clear]
      simp [LedTo, ChoiceCall.IsLoadOf, Entries.get?_nil]
  | load fetcher source =>
      have hheld := h.held signature choices
      rw [Leaves] at hheld
      rw [h.toInMemory.call_load]
      split
      · simp [LedTo, Fetched, hheld]
      · rename_i rows hnone hrows
        rw [Entries.get?_insert]
        by_cases hsame : signature = source.signature
        · subst hsame
          rw [hnone] at hheld
          simp [LedTo, Fetched, ChoiceCall.IsLoadOf, ChoiceCall.isAnswered, hrows, Except.isOk,
            Except.toBool, ← hheld]
        · simp [LedTo, ChoiceCall.IsLoadOf, hsame, Ne.symm hsame, hheld]
      · rename_i failure hnone hfailure
        simp [LedTo, Fetched, ChoiceCall.isAnswered, hfailure, Except.isOk, Except.toBool, hheld]

/-- Every load of a run is accounted for. -/
theorem callAll (h : service.Recalls history) (calls : List ChoiceCall) :
    ∀ before served after, (service.callAll calls).1 = before ++ served :: after →
      ∀ signature, served.call.IsLoadOf signature →
        AccountedFor (history ++ before) signature served := by
  induction calls generalizing service history with
  | nil =>
      intro before served after hrun
      cases before <;> cases hrun
  | cons call calls ih =>
      intro before served after hrun signature hload
      rw [callAll_cons] at hrun
      obtain _ | ⟨first, before⟩ := before
      · obtain ⟨rfl, -⟩ := List.cons.inj hrun
        rw [call_call] at hload
        cases call with
        | clear => exact absurd hload not_false
        | load fetcher source =>
            obtain rfl := hload
            rw [List.append_nil]
            exact h.call_load fetcher source
      · obtain ⟨rfl, hrest⟩ := List.cons.inj hrun
        rw [List.append_cons]
        exact ih (h.call call) before served after hrest signature hload

end Recalls

end ChoiceService

/-! ## Accounting for fetches -/

namespace ServedCall

variable {history between : List ServedCall} {signature : String} {first second : ServedCall}

/-- Two loads of the signature with other calls between them, but no clear. -/
def InSpan (history : List ServedCall) (signature : String) (first : ServedCall)
    (between : List ServedCall) (second : ServedCall) : Prop :=
  (∃ before after, history = before ++ first :: (between ++ second :: after)) ∧
    first.call.IsLoadOf signature ∧ second.call.IsLoadOf signature ∧
    ∀ served ∈ between, served.call ≠ .clear

/-- How the loads of a history fetch rows. -/
structure FetchAccounting (history : List ServedCall) : Prop where
  /-- Between two clears at most one fetch for a signature succeeds. -/
  once : ∀ {signature first between second}, InSpan history signature first between second →
    first.Fetched → ¬second.Fetched
  /-- The loads behind it fetch nothing and return what it returned. -/
  behind : ∀ {signature first between second}, InSpan history signature first between second →
    first.Fetched → second.fetches = 0 ∧ second.choices = first.choices
  /-- The loads before it make one fetch each and return nothing. -/
  before : ∀ {signature first between second}, InSpan history signature first between second →
    second.Fetched → first.fetches = 1 ∧ first.choices = []
  /-- The next load behind a fetch in vain fetches again. -/
  again : ∀ {signature first between second}, InSpan history signature first between second →
    first.FetchedInVain → (∀ served ∈ between, ¬served.call.IsLoadOf signature) →
    second.fetches = 1
  /-- While no fetch has succeeded, a load makes one fetch, and returns nothing if that fails too. -/
  unanswered : ∀ {signature earlier served later}, history = earlier ++ served :: later →
    served.call.IsLoadOf signature → (∀ choices, ¬Leaves signature choices earlier) →
    served.fetches = 1 ∧ (¬served.Fetched → served.choices = [])

/-- A history in which every load is accounted for. -/
def Accounted (history : List ServedCall) : Prop :=
  ∀ before served after, history = before ++ served :: after →
    ∀ signature, served.call.IsLoadOf signature → AccountedFor before signature served

theorem Accounted.behind (h : Accounted history)
    (hspan : InSpan history signature first between second) (hfetched : first.Fetched) :
    second.fetches = 0 ∧ second.choices = first.choices := by
  obtain ⟨⟨before, after, hhistory⟩, hfirst, hsecond, hbetween⟩ := hspan
  rw [← List.cons_append, ← List.append_assoc] at hhistory
  exact (h _ second after hhistory signature hsecond).hit first.choices
    ⟨before, first, between, rfl, ⟨hfirst, hfetched, rfl⟩, hbetween⟩

/-- What is remembered ahead of the first load is remembered ahead of the second. -/
theorem Accounted.before (h : Accounted history)
    (hspan : InSpan history signature first between second) (hfetched : second.Fetched) :
    first.fetches = 1 ∧ first.choices = [] := by
  have hfailed : ¬first.Fetched := fun hfirst =>
    Nat.ne_of_gt hfetched.1 (h.behind hspan hfirst).1
  obtain ⟨⟨before, after, hhistory⟩, hfirst, hsecond, hbetween⟩ := hspan
  have hlater := h (before ++ first :: between) second after
    (by rw [hhistory, List.append_assoc, List.cons_append]) signature hsecond
  have hnone (choices : List Choice) : ¬Leaves signature choices before := fun hleaves =>
    Nat.ne_of_gt hfetched.1 (hlater.hit choices (hleaves.append
      (List.forall_mem_cons.mpr ⟨hfirst.ne_clear, hbetween⟩))).1
  obtain ⟨hfetches, hchoices⟩ := (h before first _ hhistory signature hfirst).miss hnone
  refine ⟨hfetches, hchoices ?_⟩
  rw [← Bool.not_eq_true]
  exact fun hanswered => hfailed ⟨hfetches ▸ Nat.one_pos, hanswered⟩

theorem Accounted.again (h : Accounted history)
    (hspan : InSpan history signature first between second) (hvain : first.FetchedInVain)
    (hbetween : ∀ served ∈ between, ¬served.call.IsLoadOf signature) : second.fetches = 1 := by
  obtain ⟨⟨before, after, hhistory⟩, hfirst, hsecond, -⟩ := hspan
  have hlater := h (before ++ first :: between) second after
    (by rw [hhistory, List.append_assoc, List.cons_append]) signature hsecond
  refine (hlater.miss fun choices hleaves => ?_).1
  have hearlier : Leaves signature choices before :=
    hleaves.of_append (List.forall_mem_cons.mpr
      ⟨fun hled => Bool.false_ne_true (hvain.2.symm.trans hled.2.1.2),
        fun served hserved hled => hbetween served hserved hled.1⟩)
  exact Nat.ne_of_gt hvain.1 ((h before first _ hhistory signature hfirst).hit choices hearlier).1

theorem Accounted.fetchAccounting (h : Accounted history) : FetchAccounting history where
  once hspan hfirst hsecond := Nat.ne_of_gt hsecond.1 (h.behind hspan hfirst).1
  behind := h.behind
  before := h.before
  again := h.again
  unanswered {_ earlier served later} hhistory hload hnone := by
    obtain ⟨hfetches, hchoices⟩ := (h earlier served later hhistory _ hload).miss hnone
    refine ⟨hfetches, fun hfailed => hchoices ?_⟩
    rw [← Bool.not_eq_true]
    exact fun hanswered => hfailed ⟨hfetches ▸ Nat.one_pos, hanswered⟩

end ServedCall

namespace ChoiceService

open ServedCall

/-- Whatever is called, and whatever the fetcher answers over time, the service fetches for each
signature until that succeeds and never again before the next clear.  A failure leaves the cache as it
was, and the calls that concern one signature are served as they are without the others. -/
theorem callAll_fetchAccounting {seconds : UInt32} (hseconds : seconds ≠ 0)
    (calls : List ChoiceCall) :
    ((inMemory seconds).callAll calls).1.map ServedCall.call = calls ∧
      FetchAccounting ((inMemory seconds).callAll calls).1 ∧
      (∀ (fetcher : Fetcher) (source : ChoiceSource) (failure : Failure),
        fetcher source = .error failure →
        (((inMemory seconds).callAll calls).2.call (.load fetcher source)).2.held =
          ((inMemory seconds).callAll calls).2.held) ∧
      ∀ signature, ((inMemory seconds).callAll (calls.filter (·.concerns signature))).1 =
        ((inMemory seconds).callAll calls).1.filter fun served =>
          served.call.concerns signature := by
  have hmemory := inMemory_inMemory hseconds
  refine ⟨map_call_callAll _ calls, Accounted.fetchAccounting ?_, ?_, ?_⟩
  · exact (recalls_inMemory hseconds).callAll calls
  · intro fetcher source failure hfailure
    exact (hmemory.callAll calls).held_call_of_error hfailure
  · exact fun signature => hmemory.callAll_filter hmemory rfl calls

/-- The people are out of reach at first, and once they have been fetched they could be again. -/
def outage : List ChoiceCall :=
  let down : Fetcher := fun _ => .error (.reported "connection refused")
  [.load down (peopleBy none none), .load people.fetcher (peopleBy none none),
    .load down (peopleBy none none)]

/-- The load that fails returns nothing, and the one behind the fetch returns what was fetched. -/
theorem callAll_fetchAccounting_outage :
    ∃ first second third, ((inMemory 300).callAll outage).1 = [first, second, third] ∧
      second.Fetched ∧ first.fetches = 1 ∧ first.choices = [] ∧
      third.fetches = 0 ∧ third.choices = second.choices := by
  obtain ⟨-, haccounting, -⟩ := callAll_fetchAccounting (show (300 : UInt32) ≠ 0 by decide) outage
  have hload (fetcher : Fetcher) : (ChoiceCall.load fetcher (peopleBy none none)).IsLoadOf
      (peopleBy none none).signature := rfl
  refine ⟨_, _, _, rfl, ⟨by decide +kernel, rfl⟩, ?_⟩
  have hearlier := haccounting.before
    ⟨⟨[], [_], rfl⟩, hload _, hload _, List.forall_mem_nil _⟩ ⟨by decide +kernel, rfl⟩
  have hlater := haccounting.behind
    ⟨⟨[_], [], rfl⟩, hload _, hload _, List.forall_mem_nil _⟩ ⟨by decide +kernel, rfl⟩
  exact ⟨hearlier.1, hearlier.2, hlater.1, hlater.2⟩

end ChoiceService

end Forms
