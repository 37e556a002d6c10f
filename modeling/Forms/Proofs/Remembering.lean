import Forms.Choice.Cache
import Forms.Proofs.Entries
import Forms.Proofs.Histories

/-!
# What the cache in memory remembers

While nothing expires, the cache answers with the choices that were kept last under a signature
since it was emptied.  Choices that would expire at once are not kept.  They do not replace
others either, so an answer can be older than the last choices that were to be remembered.
-/

namespace Forms

inductive CacheCommand where
  | get (signature : String)
  | set (signature : String) (choices : List Choice) (seconds : UInt32)
  | clear

namespace CacheCommand

/-- The answer to one command, none unless it asks for choices, and what the cache then holds. -/
def perform {State : Type} (cache : ChoiceCache State) (held : State) :
    CacheCommand → Outcome (Option (List Choice) × State)
  | .get signature => (cache.get held signature).map fun answer => (answer, held)
  | .set signature choices seconds =>
    (cache.set held signature choices seconds).map fun held => (none, held)
  | .clear => (cache.clear held).map fun held => (none, held)

/-- The answers to several commands, in order. -/
def performAll {State : Type} (cache : ChoiceCache State) (held : State) :
    List CacheCommand → Outcome (List (Option (List Choice)) × State)
  | [] => .ok ([], held)
  | command :: commands => do
    let (answer, held) ← command.perform cache held
    let (answers, held) ← performAll cache held commands
    .ok (answer :: answers, held)

/-- A command that replaces or drops what is kept under a signature. -/
def Overwrites (signature : String) : CacheCommand → Prop
  | .get _ => False
  | .set other _ seconds => other = signature ∧ seconds ≠ 0
  | .clear => True

/-- After these commands, the choices are those that were kept last under the signature. -/
def KeptLast (signature : String) (commands : List CacheCommand) (choices : List Choice) : Prop :=
  ∃ earlier seconds later, commands = earlier ++ .set signature choices seconds :: later ∧
    seconds ≠ 0 ∧ ∀ command ∈ later, ¬ command.Overwrites signature

theorem keptLast_iff_since {signature : String} {commands : List CacheCommand}
    {choices : List Choice} :
    KeptLast signature commands choices ↔
      Since (fun command => ∃ seconds, command = .set signature choices seconds ∧ seconds ≠ 0)
        (fun command => ¬command.Overwrites signature) commands := by
  constructor
  · rintro ⟨earlier, seconds, later, hcommands, hseconds, hlater⟩
    exact ⟨earlier, _, later, hcommands, ⟨seconds, rfl, hseconds⟩, hlater⟩
  · rintro ⟨earlier, _, later, hcommands, ⟨seconds, rfl, hseconds⟩, hlater⟩
    exact ⟨earlier, seconds, later, hcommands, hseconds, hlater⟩

theorem not_keptLast_nil (signature : String) (choices : List Choice) :
    ¬KeptLast signature [] choices := by
  rw [keptLast_iff_since]
  exact Since.not_nil

/-- One more command keeps the choices itself, or leaves those that were kept before. -/
theorem keptLast_append_singleton_iff {signature : String} {commands : List CacheCommand}
    {command : CacheCommand} {choices : List Choice} :
    KeptLast signature (commands ++ [command]) choices ↔
      (∃ seconds, command = .set signature choices seconds ∧ seconds ≠ 0) ∨
        ¬command.Overwrites signature ∧ KeptLast signature commands choices := by
  rw [keptLast_iff_since, keptLast_iff_since, Since.append_singleton_iff]

end CacheCommand

namespace ChoiceCache

open CacheCommand

/-- The cache holds what was kept last, under each signature. -/
def Memory.Remembers (held : Memory) (commands : List CacheCommand) : Prop :=
  ∀ signature choices, held.get? signature = some choices ↔ KeptLast signature commands choices

theorem Memory.remembers_nil : Memory.Remembers [] [] := by
  intro signature choices
  exact iff_of_false nofun (not_keptLast_nil signature choices)

/-- A command is always carried out, and the cache goes on remembering. -/
theorem Memory.Remembers.perform {held : Memory} {commands : List CacheCommand}
    (hremembers : held.Remembers commands) (command : CacheCommand) :
    ∃ answer next, command.perform memory held = .ok (answer, next) ∧
      next.Remembers (commands ++ [command]) ∧
      ∀ signature, command = .get signature → answer = held.get? signature := by
  cases command with
  | get signature =>
      refine ⟨_, held, rfl, fun other choices => ?_, ?_⟩
      · rw [keptLast_append_singleton_iff, hremembers other choices]
        simp [Overwrites]
      · rintro _ ⟨⟩
        rfl
  | clear =>
      refine ⟨none, [], rfl, fun other choices => ?_, nofun⟩
      rw [keptLast_append_singleton_iff]
      simp [Overwrites, Entries.get?_nil]
  | set signature choices seconds =>
      refine ⟨none, _, rfl, fun other kept => ?_, nofun⟩
      rw [keptLast_append_singleton_iff, ← hremembers other kept, Memory.set]
      split
      · rename_i hzero
        simp [Overwrites, hzero]
      · rename_i hseconds
        rw [Entries.get?_insert]
        by_cases hother : other = signature
        · subst hother
          simp [Overwrites, hseconds]
        · simp [Overwrites, hother, Ne.symm hother]

/-- The answers to commands that come after others, which the cache remembers. -/
theorem Memory.Remembers.performAll {held : Memory} {before : List CacheCommand}
    (hremembers : held.Remembers before) (commands : List CacheCommand) :
    ∃ answers final, CacheCommand.performAll memory held commands = .ok (answers, final) ∧
      ∀ earlier signature later, commands = earlier ++ .get signature :: later →
        ∃ answer, answers[earlier.length]? = some answer ∧
          ∀ choices, answer = some choices ↔ KeptLast signature (before ++ earlier) choices := by
  induction commands generalizing held before with
  | nil =>
      refine ⟨[], held, rfl, fun earlier signature later hcommands => ?_⟩
      cases earlier <;> cases hcommands
  | cons command commands ih =>
      obtain ⟨answer, next, hperform, hnext, hget⟩ := hremembers.perform command
      obtain ⟨answers, final, hall, hanswers⟩ := ih hnext
      refine ⟨answer :: answers, final, ?_, fun earlier signature later hcommands => ?_⟩
      · rw [CacheCommand.performAll, hperform]
        change (CacheCommand.performAll memory next commands >>= _) = _
        rw [hall]
        rfl
      · cases earlier with
        | nil =>
            obtain ⟨rfl, -⟩ := List.cons.inj hcommands
            refine ⟨answer, rfl, fun choices => ?_⟩
            rw [hget signature rfl, List.append_nil]
            exact hremembers signature choices
        | cons first earlier =>
            obtain ⟨rfl, hrest⟩ := List.cons.inj hcommands
            rw [List.length_cons, List.getElem?_cons_succ, List.append_cons]
            exact hanswers earlier signature later hrest

/-- Every command is carried out, and choices are answered exactly when they were kept last. -/
theorem performAll_memory_remembers (commands : List CacheCommand) :
    ∃ answers final, performAll memory [] commands = .ok (answers, final) ∧
      ∀ earlier signature later, commands = earlier ++ .get signature :: later →
        ∃ answer, answers[earlier.length]? = some answer ∧
          ∀ choices, answer = some choices ↔ KeptLast signature earlier choices :=
  Memory.remembers_nil.performAll commands

/-- Choices of one country each. -/
def country (code name : String) : List Choice := [⟨.text code, name, none, none⟩]

/-- A country is kept, asked for, replaced and asked for again. -/
def countryCommands : List CacheCommand :=
  [.set "countries" (country "se" "Sweden") 60, .get "countries",
    .set "countries" (country "no" "Norway") 60, .get "countries"]

theorem performAll_memory_remembers_countries :
    ∃ answers final, performAll memory [] countryCommands = .ok (answers, final) ∧
      answers[1]? = some (some (country "se" "Sweden")) ∧
      answers[3]? = some (some (country "no" "Norway")) := by
  obtain ⟨answers, final, hall, hanswers⟩ := performAll_memory_remembers countryCommands
  refine ⟨answers, final, hall, ?_, ?_⟩
  · obtain ⟨answer, hanswer, hkept⟩ := hanswers [_] "countries" [_, _] rfl
    have hlast := (hkept _).mpr ⟨[], 60, [], rfl, by decide, List.forall_mem_nil _⟩
    exact hanswer.trans (congrArg some hlast)
  · obtain ⟨answer, hanswer, hkept⟩ := hanswers [_, _, _] "countries" [] rfl
    have hlast := (hkept _).mpr ⟨[_, _], 60, [], rfl, by decide, List.forall_mem_nil _⟩
    exact hanswer.trans (congrArg some hlast)

/-- The choices of the last command that set any under the signature. -/
def SetLast (signature : String) (commands : List CacheCommand) (choices : List Choice) : Prop :=
  ∃ earlier seconds later, commands = earlier ++ .set signature choices seconds :: later ∧
    ∀ command ∈ later, command ≠ .clear ∧
      ∀ others seconds, command ≠ .set signature others seconds

/-- Choices that are not kept leave older ones in the cache. -/
theorem not_performAll_memory_setLast :
    ¬ ∀ commands answers final, performAll memory [] commands = .ok (answers, final) →
      ∀ earlier signature later, commands = earlier ++ .get signature :: later →
        ∀ choices, answers[earlier.length]? = some (some choices) →
          SetLast signature earlier choices := by
  intro hlast
  let commands : List CacheCommand :=
    [.set "countries" (country "se" "Sweden") 60, .set "countries" (country "no" "Norway") 0]
  obtain ⟨earlier, seconds, later, hcommands, hlater⟩ := hlast (commands ++ [.get "countries"])
    [none, none, some (country "se" "Sweden")] _ rfl commands "countries" [] rfl _ rfl
  match earlier, hcommands with
  | [], hcommands =>
      obtain ⟨-, rfl⟩ := List.cons.inj hcommands
      exact (hlater _ List.mem_cons_self).2 _ 0 rfl
  | [_], hcommands =>
      obtain ⟨hset, -⟩ := List.cons.inj (List.cons.inj hcommands).2
      have hchoices : country "no" "Norway" = country "se" "Sweden" := by
        injection hset
      exact absurd hchoices (by decide)
  | _ :: _ :: earlier, hcommands =>
      obtain ⟨-, hcommands⟩ := List.cons.inj (List.cons.inj hcommands).2
      cases earlier <;> cases hcommands

end ChoiceCache

end Forms
