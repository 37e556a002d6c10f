import Forms.Pattern.Expr
import Mathlib.Data.List.Basic

/-!
# What an expression matches

An expression stands for a language: the parts of a text that it matches.  An assertion looks at the
characters on both sides of a position, so a part is matched between the character before it and the
one behind it.  The search goes through the text once and keeps partial derivatives.  What is left
of an expression after a character matches what the expression matches from that character on, so
the search finds a match exactly when some part of the text is one.
-/

namespace Forms.Pattern

theorem getLast?_cons_or (c : Char) (chars : List Char) (before : Option Char) :
    (c :: chars).getLast?.or before = chars.getLast?.or (some c) := by
  rw [List.getLast?_cons]
  cases chars.getLast? <;> rfl

/-- The parts of texts that are matched, with the characters before and behind them. -/
abbrev Language := (before : Option Char) → (part : List Char) → (after : Option Char) → Prop

namespace Language

def empty : Language := fun _ part _ => part = []

/-- Each of the two parts is beside the other one. -/
def followedBy (first second : Language) : Language := fun before part after =>
  ∃ left right, part = left ++ right ∧ first before left (right.head?.or after) ∧
    second (left.getLast?.or before) right after

def power (body : Language) : Nat → Language
  | 0 => empty
  | count + 1 => body.followedBy (body.power count)

variable {first second body : Language} {before after : Option Char}

theorem empty_followedBy : empty.followedBy second = second := by
  funext before part after
  apply propext
  constructor
  · rintro ⟨_, right, rfl, rfl, hsecond⟩
    exact hsecond
  · intro hsecond
    exact ⟨[], part, rfl, rfl, hsecond⟩

theorem followedBy_nil_iff :
    first.followedBy second before [] after ↔ first before [] after ∧ second before [] after := by
  constructor
  · rintro ⟨left, right, hparts, hfirst, hsecond⟩
    obtain ⟨rfl, rfl⟩ := List.append_eq_nil_iff.mp hparts.symm
    exact ⟨hfirst, hsecond⟩
  · rintro ⟨hfirst, hsecond⟩
    exact ⟨[], [], rfl, hfirst, hsecond⟩

/-- The first character belongs to the first part, unless that one is empty. -/
theorem followedBy_cons_iff {c : Char} {rest : List Char} :
    first.followedBy second before (c :: rest) after ↔
      (first before [] (some c) ∧ second before (c :: rest) after) ∨
      ∃ left right, rest = left ++ right ∧ first before (c :: left) (right.head?.or after) ∧
        second (left.getLast?.or (some c)) right after := by
  constructor
  · rintro ⟨left, right, hparts, hfirst, hsecond⟩
    rcases List.append_eq_cons_iff.mp hparts.symm with ⟨rfl, rfl⟩ | ⟨left, rfl, hrest⟩
    · exact Or.inl ⟨hfirst, hsecond⟩
    · rw [getLast?_cons_or] at hsecond
      exact Or.inr ⟨left, right, hrest, hfirst, hsecond⟩
  · rintro (⟨hfirst, hsecond⟩ | ⟨left, right, rfl, hfirst, hsecond⟩)
    · exact ⟨[], c :: rest, rfl, hfirst, hsecond⟩
    · rw [← getLast?_cons_or c _ before] at hsecond
      exact ⟨c :: left, right, rfl, hfirst, hsecond⟩

theorem power_nil_iff (count : Nat) :
    body.power count before [] after ↔ count = 0 ∨ body before [] after := by
  induction count with
  | zero => simp [power, empty]
  | succ count ih =>
      rw [power, followedBy_nil_iff, ih]
      simp only [Nat.succ_ne_zero, false_or, and_iff_left_iff_imp]
      exact Or.inr

/-- Rounds that match nothing may be put in front of others. -/
theorem power_add {c : Char} {rest : List Char} (hbody : body before [] (some c)) (more : Nat)
    {count : Nat} (hpower : body.power count before (c :: rest) after) :
    body.power (count + more) before (c :: rest) after := by
  induction more with
  | zero => exact hpower
  | succ more ih => exact followedBy_cons_iff.mpr (Or.inl ⟨hbody, ih⟩)

/-- Some round takes the first character, and those before it match nothing. -/
theorem exists_round_of_power {count : Nat} {c : Char} {rest : List Char}
    (hpower : body.power count before (c :: rest) after) :
    ∃ skipped later left right, count = skipped + (later + 1) ∧
      (skipped ≠ 0 → body before [] (some c)) ∧ rest = left ++ right ∧
      body before (c :: left) (right.head?.or after) ∧
      body.power later (left.getLast?.or (some c)) right after := by
  induction count with
  | zero => cases hpower
  | succ count ih =>
      rcases followedBy_cons_iff.mp hpower with ⟨hbody, hothers⟩ | ⟨left, right, hrest, hround⟩
      · obtain ⟨skipped, later, left, right, rfl, -, hround⟩ := ih hothers
        exact ⟨skipped + 1, later, left, right, by omega, fun _ => hbody, hround⟩
      · exact ⟨0, count, left, right, by omega, fun hne => absurd rfl hne, hrest, hround⟩

section

variable {c : Char} {rest : List Char} {least : Nat} {most : Option Nat} {skips : Bool}
  (hskips : skips = true ↔ body before [] (some c))
include hskips

/-- Behind the first character one round fewer is due, and none where rounds may match nothing. -/
theorem exists_power_behind {count : Nat} (hleast : least ≤ count)
    (hmost : ∀ bound ∈ most, count ≤ bound) (hpower : body.power count before (c :: rest) after) :
    most ≠ some 0 ∧ ∃ left right, rest = left ++ right ∧
      body before (c :: left) (right.head?.or after) ∧
      ∃ later, (if skips then 0 else least - 1) ≤ later ∧ (∀ bound ∈ most.map (· - 1), later ≤ bound) ∧
        body.power later (left.getLast?.or (some c)) right after := by
  obtain ⟨skipped, later, left, right, rfl, hskipped, rfl, hround, hlater⟩ :=
    exists_round_of_power hpower
  refine ⟨?_, left, right, rfl, hround, later, ?_, fun bound hbound => ?_, hlater⟩
  · rintro rfl
    exact absurd (hmost 0 rfl) (by omega)
  · -- Only rounds that match nothing can have come before, and those need no bound.
    split
    · exact Nat.zero_le _
    · rename_i hnot
      have hnone : skipped = 0 := by
        by_contra hsome
        exact hnot (hskips.mpr (hskipped hsome))
      omega
  · obtain ⟨larger, hlarger, rfl⟩ := Option.map_eq_some_iff.mp hbound
    have hcount := hmost larger hlarger
    omega

theorem exists_power_of_behind {left right : List Char} {later : Nat} (hpositive : most ≠ some 0)
    (hbounds : ∀ bound ∈ most, least ≤ bound)
    (hround : body before (c :: left) (right.head?.or after))
    (hleast : (if skips then 0 else least - 1) ≤ later)
    (hmost : ∀ bound ∈ most.map (· - 1), later ≤ bound)
    (hlater : body.power later (left.getLast?.or (some c)) right after) :
    ∃ count, least ≤ count ∧ (∀ bound ∈ most, count ≤ bound) ∧
      body.power count before (c :: (left ++ right)) after := by
  have hpower : body.power (later + 1) before (c :: (left ++ right)) after :=
    followedBy_cons_iff.mpr (Or.inr ⟨left, right, rfl, hround, hlater⟩)
  have hbound : ∀ bound ∈ most, later + 1 ≤ bound := by
    intro bound hbound
    have hlater := hmost (bound - 1) (Option.mem_map_of_mem _ hbound)
    have hne : bound ≠ 0 := by
      rintro rfl
      exact hpositive hbound
    omega
  by_cases hskip : skips = true
  · refine ⟨later + 1 + (least - (later + 1)), by omega, fun bound hmem => ?_,
      power_add (hskips.mp hskip) _ hpower⟩
    have hlater := hbound bound hmem
    have hleast := hbounds bound hmem
    omega
  · rw [if_neg hskip] at hleast
    exact ⟨later + 1, by omega, hbound, hpower⟩

end

end Language

namespace Expr

/-- The parts that an expression matches. -/
def language : Expr → Language
  | .empty => Language.empty
  | .chars set => fun _ part _ => ∃ c : Char, set.contains c.toNat = true ∧ part = [c]
  | .assertion test => fun before part after => part = [] ∧ test.holds before after = true
  | .concat first second => first.language.followedBy second.language
  | .alternate first second => fun before part after =>
    first.language before part after ∨ second.language before part after
  | .iterate body least most => fun before part after =>
    ∃ count, least ≤ count ∧ (∀ bound ∈ most, count ≤ bound) ∧
      body.language.power count before part after
  | .capture body => body.language

/-- No repetition has to be made more often than it may. -/
def Bounded : Expr → Prop
  | .empty | .chars _ | .assertion _ => True
  | .concat first second | .alternate first second => first.Bounded ∧ second.Bounded
  | .iterate body least most => body.Bounded ∧ ∀ bound ∈ most, least ≤ bound
  | .capture body => body.Bounded

theorem matchesEmpty_iff {expr : Expr} (hbounded : expr.Bounded) (before after : Option Char) :
    expr.matchesEmpty before after = true ↔ expr.language before [] after := by
  induction expr with
  | empty => exact ⟨fun _ => rfl, fun _ => rfl⟩
  | chars set => simp [matchesEmpty, language]
  | assertion test => simp [matchesEmpty, language]
  | concat first second ihfirst ihsecond =>
      rw [matchesEmpty, Bool.and_eq_true, ihfirst hbounded.1, ihsecond hbounded.2]
      exact Language.followedBy_nil_iff.symm
  | alternate first second ihfirst ihsecond =>
      rw [matchesEmpty, Bool.or_eq_true, ihfirst hbounded.1, ihsecond hbounded.2]
      rfl
  | iterate body least most ih =>
      rw [matchesEmpty, Bool.or_eq_true, beq_iff_eq, ih hbounded.1]
      simp only [language, Language.power_nil_iff]
      constructor
      · intro hempty
        exact ⟨least, Nat.le_refl _, hbounded.2, hempty⟩
      · rintro ⟨count, hleast, -, rfl | hbody⟩
        · exact Or.inl (Nat.le_zero.mp hleast)
        · exact Or.inr hbody
  | capture body ih => exact ih hbounded

/-! ## Derivatives -/

theorem language_followedBy (first second : Expr) :
    (first.followedBy second).language = first.language.followedBy second.language := by
  cases first with
  | empty => exact Language.empty_followedBy.symm
  | _ => rfl

theorem Bounded.followedBy {first second : Expr} (hfirst : first.Bounded)
    (hsecond : second.Bounded) : (first.followedBy second).Bounded := by
  cases first with
  | empty => exact hsecond
  | _ => exact ⟨hfirst, hsecond⟩

theorem Bounded.derivatives {expr : Expr} (hbounded : expr.Bounded) {before : Option Char}
    {c : Char} : ∀ left ∈ expr.derivatives before c, left.Bounded := by
  induction expr with
  | empty | assertion _ => simp [Expr.derivatives]
  | chars set =>
      intro left hleft
      rw [Expr.derivatives] at hleft
      split at hleft
      · rw [List.mem_singleton.mp hleft]
        exact True.intro
      · cases hleft
  | concat first second ihfirst ihsecond =>
      intro left hleft
      rw [Expr.derivatives, List.mem_append, List.mem_map] at hleft
      rcases hleft with ⟨other, hother, rfl⟩ | hleft
      · exact (ihfirst hbounded.1 other hother).followedBy hbounded.2
      · split at hleft
        · exact ihsecond hbounded.2 left hleft
        · cases hleft
  | alternate first second ihfirst ihsecond =>
      intro left hleft
      rw [Expr.derivatives, List.mem_append] at hleft
      exact hleft.elim (ihfirst hbounded.1 left) (ihsecond hbounded.2 left)
  | iterate body least most ih =>
      intro left hleft
      rw [Expr.derivatives] at hleft
      split at hleft
      · cases hleft
      · obtain ⟨other, hother, rfl⟩ := List.mem_map.mp hleft
        refine (ih hbounded.1 other hother).followedBy ⟨hbounded.1, fun bound hbound => ?_⟩
        obtain ⟨larger, hlarger, rfl⟩ := Option.map_eq_some_iff.mp hbound
        have hleast := hbounded.2 larger hlarger
        split <;> omega
  | capture body ih => exact ih hbounded

/-- What is left of the expression after a character matches what follows that character in a part
that the expression matches. -/
def DerivesAt (expr : Expr) (before : Option Char) (c : Char) : Prop :=
  ∀ rest after, expr.language before (c :: rest) after ↔
    ∃ left ∈ expr.derivatives before c, left.language (some c) rest after

section

variable {before : Option Char} {c : Char}

theorem derivesAt_chars (set : Charset) : (Expr.chars set).DerivesAt before c := by
  intro rest after
  simp only [language, derivatives, List.cons.injEq]
  constructor
  · rintro ⟨_, hmem, rfl, rfl⟩
    rw [if_pos hmem]
    exact ⟨.empty, List.mem_singleton_self _, rfl⟩
  · rintro ⟨left, hleft, hrest⟩
    split at hleft
    · rename_i hmem
      rw [List.mem_singleton.mp hleft] at hrest
      exact ⟨c, hmem, rfl, hrest⟩
    · cases hleft

theorem DerivesAt.followedBy_iff {first : Expr} (hfirst : first.DerivesAt before c) (second : Expr)
    (rest : List Char) (after : Option Char) :
    (∃ left ∈ (first.derivatives before c).map (·.followedBy second),
        left.language (some c) rest after) ↔
      ∃ part right, rest = part ++ right ∧
        first.language before (c :: part) (right.head?.or after) ∧
        second.language (part.getLast?.or (some c)) right after := by
  constructor
  · rintro ⟨_, hmem, hrest⟩
    obtain ⟨left, hleft, rfl⟩ := List.mem_map.mp hmem
    rw [language_followedBy] at hrest
    obtain ⟨part, right, rfl, hpart, hsecond⟩ := hrest
    exact ⟨part, right, rfl, (hfirst part _).mpr ⟨left, hleft, hpart⟩, hsecond⟩
  · rintro ⟨part, right, rfl, hpart, hsecond⟩
    obtain ⟨left, hleft, hrest⟩ := (hfirst part _).mp hpart
    refine ⟨_, List.mem_map.mpr ⟨left, hleft, rfl⟩, ?_⟩
    rw [language_followedBy]
    exact ⟨part, right, rfl, hrest, hsecond⟩

theorem DerivesAt.concat {first second : Expr} (hbounded : first.Bounded)
    (hfirst : first.DerivesAt before c) (hsecond : second.DerivesAt before c) :
    (Expr.concat first second).DerivesAt before c := by
  intro rest after
  rw [language, Language.followedBy_cons_iff, ← matchesEmpty_iff hbounded, derivatives]
  simp only [List.mem_append, or_and_right, exists_or]
  rw [hfirst.followedBy_iff, hsecond, or_comm]
  apply or_congr_right
  cases first.matchesEmpty before (some c) with
  | true => simp
  | false => simp

theorem DerivesAt.iterate {body : Expr} {least : Nat} {most : Option Nat}
    (hbounded : (Expr.iterate body least most).Bounded) (hbody : body.DerivesAt before c) :
    (Expr.iterate body least most).DerivesAt before c := by
  intro rest after
  have hskips := matchesEmpty_iff hbounded.1 before (some c)
  rw [derivatives]
  constructor
  · rintro ⟨count, hleast, hmost, hpower⟩
    obtain ⟨hpositive, hrounds⟩ := Language.exists_power_behind hskips hleast hmost hpower
    rw [if_neg hpositive]
    exact (hbody.followedBy_iff _ rest after).mpr hrounds
  · intro hleft
    split at hleft
    · simp at hleft
    · rename_i hpositive
      obtain ⟨part, right, rfl, hround, later, hleast, hmost, hlater⟩ :=
        (hbody.followedBy_iff _ rest after).mp hleft
      exact Language.exists_power_of_behind hskips hpositive hbounded.2 hround hleast hmost hlater

theorem derivesAt {expr : Expr} (hbounded : expr.Bounded) : expr.DerivesAt before c := by
  induction expr with
  | empty => simp [DerivesAt, language, Language.empty, derivatives]
  | assertion test => simp [DerivesAt, language, derivatives]
  | chars set => exact derivesAt_chars set
  | concat first second ihfirst ihsecond =>
      exact .concat hbounded.1 (ihfirst hbounded.1) (ihsecond hbounded.2)
  | alternate first second ihfirst ihsecond =>
      intro rest after
      simp only [language, derivatives, List.mem_append, or_and_right, exists_or,
        ihfirst hbounded.1 rest after, ihsecond hbounded.2 rest after]
  | iterate body least most ih => exact .iterate hbounded (ih hbounded.1)
  | capture body ih => exact ih hbounded

end

/-! ## Searching -/

/-- Some beginning of the text is matched. -/
def MatchesPrefix (expr : Expr) (before : Option Char) (text : List Char) : Prop :=
  ∃ part rest, text = part ++ rest ∧ expr.language before part rest.head?

/-- Some part of the text is matched. -/
def MatchesWithin (expr : Expr) (before : Option Char) (text : List Char) : Prop :=
  ∃ skipped rest, text = skipped ++ rest ∧
    expr.MatchesPrefix (skipped.getLast?.or before) rest

theorem matchesPrefix_nil_iff {expr : Expr} (hbounded : expr.Bounded) (before : Option Char) :
    expr.MatchesPrefix before [] ↔ expr.matchesEmpty before none = true := by
  rw [matchesEmpty_iff hbounded]
  constructor
  · rintro ⟨part, rest, htext, hpart⟩
    obtain ⟨rfl, rfl⟩ := List.append_eq_nil_iff.mp htext.symm
    exact hpart
  · intro hempty
    exact ⟨[], [], rfl, hempty⟩

theorem matchesPrefix_cons_iff {expr : Expr} (hbounded : expr.Bounded) (before : Option Char)
    (c : Char) (text : List Char) :
    expr.MatchesPrefix before (c :: text) ↔ expr.matchesEmpty before (some c) = true ∨
      ∃ left ∈ expr.derivatives before c, left.MatchesPrefix (some c) text := by
  rw [matchesEmpty_iff hbounded]
  constructor
  · rintro ⟨part, rest, htext, hpart⟩
    rcases List.append_eq_cons_iff.mp htext.symm with ⟨rfl, rfl⟩ | ⟨part, rfl, rfl⟩
    · exact Or.inl hpart
    · obtain ⟨left, hleft, hrest⟩ := (derivesAt hbounded _ _).mp hpart
      exact Or.inr ⟨left, hleft, part, rest, rfl, hrest⟩
  · rintro (hempty | ⟨left, hleft, part, rest, rfl, hpart⟩)
    · exact ⟨[], c :: text, rfl, hempty⟩
    · exact ⟨c :: part, rest, rfl, (derivesAt hbounded _ _).mpr ⟨left, hleft, hpart⟩⟩

theorem matchesWithin_nil_iff (expr : Expr) (before : Option Char) :
    expr.MatchesWithin before [] ↔ expr.MatchesPrefix before [] := by
  constructor
  · rintro ⟨skipped, rest, htext, hbegins⟩
    obtain ⟨rfl, rfl⟩ := List.append_eq_nil_iff.mp htext.symm
    exact hbegins
  · intro hbegins
    exact ⟨[], [], rfl, hbegins⟩

theorem matchesWithin_cons_iff (expr : Expr) (before : Option Char) (c : Char)
    (text : List Char) :
    expr.MatchesWithin before (c :: text) ↔
      expr.MatchesPrefix before (c :: text) ∨ expr.MatchesWithin (some c) text := by
  constructor
  · rintro ⟨skipped, rest, htext, hbegins⟩
    rcases List.append_eq_cons_iff.mp htext.symm with ⟨rfl, rfl⟩ | ⟨skipped, rfl, rfl⟩
    · exact Or.inl hbegins
    · rw [getLast?_cons_or] at hbegins
      exact Or.inr ⟨skipped, rest, rfl, hbegins⟩
  · rintro (hbegins | ⟨skipped, rest, rfl, hbegins⟩)
    · exact ⟨[], c :: text, rfl, hbegins⟩
    · rw [← getLast?_cons_or c _ before] at hbegins
      exact ⟨c :: skipped, rest, rfl, hbegins⟩

/-- One step of the search: some expression stops here, or what is left of one goes on. -/
theorem exists_matchesPrefix_cons_iff {states : List Expr}
    (hbounded : ∀ state ∈ states, state.Bounded) (before : Option Char) (c : Char)
    (text : List Char) :
    (∃ state ∈ states, state.MatchesPrefix before (c :: text)) ↔
      (∃ state ∈ states, state.matchesEmpty before (some c) = true) ∨
        ∃ left ∈ states.flatMap (·.derivatives before c), left.MatchesPrefix (some c) text := by
  constructor
  · rintro ⟨state, hstate, hmatch⟩
    rcases (matchesPrefix_cons_iff (hbounded state hstate) _ _ _).mp hmatch with
      hempty | ⟨left, hleft, hrest⟩
    · exact Or.inl ⟨state, hstate, hempty⟩
    · exact Or.inr ⟨left, List.mem_flatMap.mpr ⟨state, hstate, hleft⟩, hrest⟩
  · rintro (⟨state, hstate, hempty⟩ | ⟨left, hleft, hrest⟩)
    · exact ⟨state, hstate,
        (matchesPrefix_cons_iff (hbounded state hstate) _ _ _).mpr (Or.inl hempty)⟩
    · obtain ⟨state, hstate, hleft⟩ := List.mem_flatMap.mp hleft
      exact ⟨state, hstate,
        (matchesPrefix_cons_iff (hbounded state hstate) _ _ _).mpr (Or.inr ⟨left, hleft, hrest⟩)⟩

/-- The search succeeds when an expression under way matches a beginning of the text, or the whole
expression some part of it. -/
theorem search_iff {expr : Expr} (hbounded : expr.Bounded) (before : Option Char)
    {underWay : List Expr} (hunderWay : ∀ left ∈ underWay, left.Bounded) (text : List Char) :
    expr.search before underWay text = true ↔
      (∃ left ∈ underWay, left.MatchesPrefix before text) ∨ expr.MatchesWithin before text := by
  induction text generalizing before underWay with
  | nil =>
      rw [search, List.any_eq_true, matchesWithin_nil_iff, List.exists_mem_cons_iff, or_comm]
      refine or_congr (exists_congr fun left => and_congr_right fun hleft => ?_) ?_
      · exact (matchesPrefix_nil_iff (hunderWay left hleft) before).symm
      · exact (matchesPrefix_nil_iff hbounded before).symm
  | cons c text ih =>
      have hstates : ∀ left ∈ (expr :: underWay).eraseDups, left.Bounded := by
        intro left hleft
        rw [List.mem_eraseDups] at hleft
        exact List.forall_mem_cons.mpr ⟨hbounded, hunderWay⟩ left hleft
      have hnext : ∀ left ∈ (expr :: underWay).eraseDups.flatMap (·.derivatives before c),
          left.Bounded := by
        intro left hleft
        obtain ⟨state, hstate, hleft⟩ := List.mem_flatMap.mp hleft
        exact (hstates state hstate).derivatives left hleft
      have hbegins :
          (∃ state ∈ (expr :: underWay).eraseDups, state.MatchesPrefix before (c :: text)) ↔
            (∃ left ∈ underWay, left.MatchesPrefix before (c :: text)) ∨
              expr.MatchesPrefix before (c :: text) := by
        simp only [List.mem_eraseDups, List.exists_mem_cons_iff]
        exact or_comm
      rw [search, Bool.or_eq_true, ih _ hnext, matchesWithin_cons_iff, List.any_eq_true, ← or_assoc,
        ← exists_matchesPrefix_cons_iff hstates, hbegins, or_assoc]

/-- A text matches when some part of it is one that the expression matches where it stands. -/
theorem matchesIn_iff {expr : Expr} (hbounded : expr.Bounded) (text : List Char) :
    expr.matchesIn text = true ↔ ∃ skipped part rest, text = skipped ++ (part ++ rest) ∧
      expr.language skipped.getLast? part rest.head? := by
  rw [matchesIn, search_iff hbounded none (List.forall_mem_nil _)]
  constructor
  · rintro (⟨left, hleft, -⟩ | ⟨skipped, _, rfl, part, rest, rfl, hpart⟩)
    · cases hleft
    · rw [Option.or_none] at hpart
      exact ⟨skipped, part, rest, rfl, hpart⟩
  · rintro ⟨skipped, part, rest, rfl, hpart⟩
    refine Or.inr ⟨skipped, part ++ rest, rfl, part, rest, rfl, ?_⟩
    rw [Option.or_none]
    exact hpart

/-! ## Repeated characters -/

/-- A number of rounds over a set matches as many of its characters. -/
theorem power_chars_iff (set : Charset) (count : Nat) (before after : Option Char)
    (part : List Char) :
    (chars set).language.power count before part after ↔
      part.length = count ∧ ∀ c ∈ part, set.contains c.toNat = true := by
  induction count generalizing before part with
  | zero =>
      rw [List.length_eq_zero_iff]
      constructor
      · rintro rfl
        exact ⟨rfl, List.forall_mem_nil _⟩
      · exact And.left
  | succ count ih =>
      constructor
      · rintro ⟨_, right, rfl, ⟨c, hc, rfl⟩, hright⟩
        obtain ⟨hlength, hchars⟩ := (ih _ _).mp hright
        rw [List.length_append, hlength, List.length_singleton, Nat.add_comm]
        exact ⟨rfl, List.forall_mem_cons.mpr ⟨hc, hchars⟩⟩
      · rintro ⟨hlength, hchars⟩
        obtain ⟨c, right, rfl⟩ := List.exists_cons_of_length_eq_add_one hlength
        rw [List.forall_mem_cons] at hchars
        exact ⟨[c], right, rfl, ⟨c, hchars.1, rfl⟩,
          (ih _ _).mpr ⟨Nat.succ.inj hlength, hchars.2⟩⟩

theorem language_oneOrMore_iff (set : Charset) (before after : Option Char) (part : List Char) :
    (iterate (chars set) 1 none).language before part after ↔
      part ≠ [] ∧ ∀ c ∈ part, set.contains c.toNat = true := by
  rw [language]
  simp only [power_chars_iff]
  constructor
  · rintro ⟨_, hleast, -, rfl, hchars⟩
    exact ⟨List.ne_nil_of_length_pos hleast, hchars⟩
  · rintro ⟨hsome, hchars⟩
    exact ⟨part.length, List.length_pos_iff.mpr hsome, nofun, rfl, hchars⟩

/-! ## Anchors -/

/-- An expression that begins with the start of the text matches from there or nowhere. -/
theorem matchesIn_textStart_iff {expr : Expr} (hbounded : expr.Bounded) (text : List Char) :
    (concat (.assertion .textStart) expr).matchesIn text = true ↔ expr.MatchesPrefix none text := by
  have hanchored : (concat (.assertion .textStart) expr).Bounded := ⟨True.intro, hbounded⟩
  rw [matchesIn_iff hanchored]
  constructor
  · rintro ⟨skipped, part, rest, rfl, _, right, rfl, ⟨rfl, hstart⟩, hpart⟩
    have hskipped : skipped = [] := by
      rw [Assertion.holds, Option.isNone_iff_eq_none] at hstart
      exact List.getLast?_eq_none_iff.mp hstart
    subst hskipped
    exact ⟨right, rest, rfl, hpart⟩
  · rintro ⟨part, rest, rfl, hpart⟩
    exact ⟨[], part, rest, rfl, [], part, rfl, ⟨rfl, rfl⟩, hpart⟩

/-- An expression that ends with the end of the text matches all of what is left, or nothing. -/
theorem matchesPrefix_textEnd_iff (expr : Expr) (before : Option Char) (text : List Char) :
    (concat expr (.assertion .textEnd)).MatchesPrefix before text ↔
      expr.language before text none := by
  constructor
  · rintro ⟨part, rest, rfl, left, _, rfl, hpart, rfl, hend⟩
    have hrest : rest = [] := by
      rw [Assertion.holds, Option.isNone_iff_eq_none] at hend
      exact List.head?_eq_none_iff.mp hend
    subst hrest
    rwa [List.append_nil, List.append_nil]
  · intro hpart
    exact ⟨text, [], (List.append_nil _).symm, text, [], (List.append_nil _).symm, hpart, rfl, rfl⟩

end Expr

end Forms.Pattern
