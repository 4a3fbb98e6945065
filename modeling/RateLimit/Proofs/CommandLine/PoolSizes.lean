import Mathlib.Tactic.SplitIfs
import Mathlib.Tactic.Tauto
import RateLimit.CommandLine.Run
import RateLimit.Store.Opening

/-!
# Sizes of a pool on the command line

The sizes of the pool are checked twice: when the arguments of a run are looked at, with the zeros
as they are given, and when the configuration of the store is resolved, with the defaults in the
places of the zeros.  What the first check refuses the second refuses too, for the same sizes.  The
first check lets exactly two kinds of sizes pass that the second refuses: no size for the start
beside a greatest size below the default for the start, and no greatest size beside a size for the
start above the default greatest one.  A run with such sizes fails when its store is opened.

## Main definitions

* `CommandLine.Settings.Slips` : the sizes that only the second check refuses.

## Main results

* `CommandLine.Settings.sizes_refused_iff` : when the two checks agree.
* `CommandLine.Settings.not_sizes_refused` : sizes that only the second check refuses.
-/

namespace RateLimit

@[simp]
theorem orDefault_zero (default : Nat) : orDefault default 0 = default := rfl

theorem orDefault_of_ne_zero {n : Nat} (default : Nat) (h : n ≠ 0) : orDefault default n = n :=
  if_pos (Nat.pos_of_ne_zero h)

namespace CommandLine.Settings

/-- One of the sizes is left to its default, and the other one does not go with that default. -/
def Slips (s : Settings) : Prop :=
  (s.initialSize = 0 ∧ 0 < s.maxSize ∧ s.maxSize < 5) ∨ (s.maxSize = 0 ∧ 100 < s.initialSize)

variable {a : Arguments} {s : Settings}

/-- What the check of a run comes to if nothing but the sizes can be wrong. -/
theorem check_of_usable (hkey : s.key ≠ "") (hcount : s.count ≠ 0) :
    s.check =
      if s.maxSize ≠ 0 ∧ s.maxSize < s.initialSize then
        .error (.poolSizes s.initialSize s.maxSize)
      else .ok s := by
  rw [check, if_neg hkey, if_neg hcount]

/-- What the sizes of a run come to once the defaults are put in. -/
theorem pool_config (s : Settings) :
    s.config.pool =
      if orDefault 100 s.maxSize < orDefault 5 s.initialSize then
        .error (.poolSizes (orDefault 5 s.initialSize) (orDefault 100 s.maxSize))
      else .ok ⟨orDefault 5 s.initialSize, orDefault 100 s.maxSize, s.credentials⟩ :=
  rfl

/-- With the defaults put in, sizes contradict each other if they do so as they are given, or if
one of them does not go with the default of the other. -/
theorem orDefault_lt_orDefault_iff (s : Settings) :
    orDefault 100 s.maxSize < orDefault 5 s.initialSize ↔
      (s.maxSize ≠ 0 ∧ s.maxSize < s.initialSize) ∨ s.Slips := by
  by_cases hinitial : s.initialSize = 0 <;> by_cases hmax : s.maxSize = 0 <;>
    simp [Slips, hinitial, hmax, orDefault_of_ne_zero, Nat.pos_of_ne_zero]

/-- Sizes that contradict each other as they are given leave nothing to a default. -/
theorem not_slips (hmax : s.maxSize ≠ 0) (hsizes : s.maxSize < s.initialSize) : ¬ s.Slips := by
  simp only [Slips]
  omega

theorem check_eq_error_iff (hkey : s.key ≠ "") (hcount : s.count ≠ 0) :
    (∃ fault, s.check = .error fault) ↔ s.maxSize ≠ 0 ∧ s.maxSize < s.initialSize := by
  rw [check_of_usable hkey hcount]
  split_ifs with h <;> simp [h]

theorem pool_config_eq_error_iff (s : Settings) :
    (∃ fault, s.config.pool = .error fault) ↔
      (s.maxSize ≠ 0 ∧ s.maxSize < s.initialSize) ∨ s.Slips := by
  rw [pool_config, ← orDefault_lt_orDefault_iff]
  split_ifs with h <;> simp [h]

/-- **The sizes of the pool of a run.** Where nothing else is wrong with the arguments of a run, the
check of the arguments and that of the configuration of the store refuse the same sizes, save those
of which one is left to its default and the other does not go with that default.  What the first
check refuses the second refuses for the same sizes; what slips through the first check is refused
when the store is opened, before anything is done on the network. -/
theorem sizes_refused_iff (hs : unchecked? a = .ok s) (hkey : s.key ≠ "") (hcount : s.count ≠ 0) :
    (((∃ fault, ofArguments? a = .error fault) ↔ ∃ fault, s.config.pool = .error fault) ↔
        ¬ s.Slips) ∧
      (∀ fault, ofArguments? a = .error fault →
        fault = .poolSizes s.initialSize s.maxSize ∧
          s.config.pool = .error (.poolSizes s.initialSize s.maxSize)) ∧
      (s.Slips → ofArguments? a = .ok s ∧ ∀ limits, s.config.limits = .ok limits →
        Store.Opening.start s.config =
          (.failed (.config (.poolSizes (orDefault 5 s.initialSize) (orDefault 100 s.maxSize))) [],
            [])) := by
  have hchecked : ofArguments? a = s.check := by rw [ofArguments?, hs]; rfl
  rw [hchecked]
  refine ⟨?_, fun fault hfault => ?_, fun hslips => ⟨?_, fun limits hlimits => ?_⟩⟩
  · rw [check_eq_error_iff hkey hcount, pool_config_eq_error_iff]
    have hnot : s.maxSize ≠ 0 ∧ s.maxSize < s.initialSize → ¬ s.Slips := fun h => not_slips h.1 h.2
    tauto
  · obtain ⟨hmax, hsizes⟩ := (check_eq_error_iff hkey hcount).mp ⟨fault, hfault⟩
    have hinitial : s.initialSize ≠ 0 := Nat.ne_zero_of_lt hsizes
    rw [check_of_usable hkey hcount, if_pos ⟨hmax, hsizes⟩] at hfault
    rw [pool_config, orDefault_of_ne_zero _ hmax, orDefault_of_ne_zero _ hinitial, if_pos hsizes]
    simpa using hfault.symm
  · have hgiven : ¬ (s.maxSize ≠ 0 ∧ s.maxSize < s.initialSize) := fun h => not_slips h.1 h.2 hslips
    rw [check_of_usable hkey hcount, if_neg hgiven]
  · have hsizes := (orDefault_lt_orDefault_iff s).mpr (.inr hslips)
    rw [Store.Opening.start, hlimits, pool_config, if_pos hsizes]

/-- Two hundred connections at the start go with no bound that is given, but not with the default
one. -/
theorem sizes_refused_iff_unbounded :
    let a : Arguments := { key := some "k", initialSize := 200, maxSize := 0 }
    ∃ s, unchecked? a = .ok s ∧ s.key ≠ "" ∧ s.count ≠ 0 ∧ s.Slips ∧ ofArguments? a = .ok s ∧
      Store.Opening.start s.config = (.failed (.config (.poolSizes 200 100)) [], []) := by
  intro a
  obtain ⟨s, hs⟩ : ∃ s, unchecked? a = .ok s := ⟨_, rfl⟩
  have hinitial : s.initialSize = 200 := by cases hs; rfl
  have hmax : s.maxSize = 0 := by cases hs; rfl
  have hkey : s.key ≠ "" := by cases hs; decide
  have hcount : s.count ≠ 0 := by cases hs; decide
  obtain ⟨limits, hlimits⟩ : ∃ limits, s.config.limits = .ok limits := by
    cases hs
    exact ⟨_, dif_pos (by decide)⟩
  have hslips : s.Slips := by simp [Slips, hinitial, hmax]
  obtain ⟨-, -, hopen⟩ := sizes_refused_iff hs hkey hcount
  obtain ⟨haccepted, hrefused⟩ := hopen hslips
  refine ⟨s, hs, hkey, hcount, hslips, haccepted, ?_⟩
  rw [hrefused limits hlimits, hinitial, hmax]
  rfl

/-- A run that is to have three connections at most, and as many at the start as by default, passes
its check, and its store is then refused. -/
theorem not_sizes_refused :
    ∃ s, prepare ["--initial-pool-size", "0", "--max-pool-size", "3", "k"] [] = .calls s ∧
      s.config.pool = .error (.poolSizes 5 3) :=
  ⟨_, rfl, rfl⟩

end CommandLine.Settings

end RateLimit
