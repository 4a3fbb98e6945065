import Mathlib.Data.List.Nodup

/-!
# Lists of named things

Users, calls, connections and records are kept in lists by name.  An entry is replaced by putting
the new one in front of the others.

## Main results

* `lookup_filter_ne` : what is found when the entry of a name has been removed.
* `perm_of_lookup` : the entries are that of a name and the others.
-/

namespace RateLimit

theorem lookup_filter_ne {κ α : Type} [BEq κ] [LawfulBEq κ] [DecidableEq κ] (l : List (κ × α))
    (name other : κ) : (l.filter fun entry => entry.1 ≠ name).lookup other =
      if other = name then none else l.lookup other := by
  induction l with
  | nil => simp
  | cons entry l ih =>
      obtain ⟨key, b⟩ := entry
      by_cases hkey : key = name
      · subst hkey
        rw [List.filter_cons_of_neg (by simp), ih]
        by_cases hother : other = key
        · rw [if_pos hother, if_pos hother]
        · rw [if_neg hother, if_neg hother, List.lookup_cons, beq_false_of_ne hother]
      · rw [List.filter_cons_of_pos (by simpa using hkey), List.lookup_cons, List.lookup_cons, ih]
        by_cases hother : other = key
        · subst hother
          rw [if_neg hkey, if_neg hkey, beq_self_eq_true]
        · rw [beq_false_of_ne hother]

/-- What is found when the entry of a name has been replaced. -/
theorem lookup_cons_filter_ne {κ α : Type} [BEq κ] [LawfulBEq κ] [DecidableEq κ]
    (l : List (κ × α)) (name other : κ) (a : α) :
    ((name, a) :: l.filter fun entry => entry.1 ≠ name).lookup other =
      if other = name then some a else l.lookup other := by
  rw [List.lookup_cons, lookup_filter_ne]
  by_cases hother : other = name
  · rw [if_pos hother, if_pos hother, hother, beq_self_eq_true]
  · rw [if_neg hother, if_neg hother, beq_false_of_ne hother]

section

variable {α : Type} {l : List (Nat × α)} {name other : Nat} {a : α}

theorem lookup_eq_none_iff_notMem : l.lookup name = none ↔ name ∉ l.map Prod.fst := by
  rw [List.lookup_eq_none_iff, List.mem_map]
  constructor
  · rintro h ⟨entry, hentry, rfl⟩
    simpa using h entry hentry
  · intro h entry hentry
    exact bne_iff_ne.2 fun heq => h ⟨entry, hentry, heq.symm⟩

theorem mem_of_lookup (h : l.lookup name = some a) : (name, a) ∈ l := by
  obtain ⟨before, behind, rfl, -⟩ := List.lookup_eq_some_iff.1 h
  exact List.mem_append_right before List.mem_cons_self

/-- If no name stands twice in a list, every entry is found. -/
theorem lookup_of_mem (hnames : (l.map Prod.fst).Nodup) (h : (name, a) ∈ l) :
    l.lookup name = some a := by
  obtain ⟨before, behind, rfl⟩ := List.append_of_mem h
  refine List.lookup_eq_some_iff.2 ⟨before, behind, rfl, fun entry hentry => ?_⟩
  rw [List.map_append, List.map_cons, List.nodup_middle, List.nodup_cons] at hnames
  refine bne_iff_ne.2 fun heq => hnames.1 (List.mem_append_left _ ?_)
  exact List.mem_map.2 ⟨entry, hentry, heq.symm⟩

/-- If no name stands twice in a list, it is the entry of a name and the others. -/
theorem perm_of_lookup (hnames : (l.map Prod.fst).Nodup) (h : l.lookup name = some a) :
    l.Perm ((name, a) :: l.filter fun entry => entry.1 ≠ name) := by
  obtain ⟨before, behind, rfl, -⟩ := List.lookup_eq_some_iff.1 h
  rw [List.map_append, List.map_cons, List.nodup_middle, List.nodup_cons, ← List.map_append]
    at hnames
  have hothers : ∀ entry ∈ before ++ behind, entry.1 ≠ name := by
    intro entry hentry heq
    exact hnames.1 (List.mem_map.2 ⟨entry, hentry, heq⟩)
  have hfilter : ((before ++ (name, a) :: behind).filter fun entry => entry.1 ≠ name) =
      before ++ behind := by
    rw [List.filter_append, List.filter_cons_of_neg (by simp), ← List.filter_append,
      List.filter_eq_self]
    intro entry hentry
    simpa using hothers entry hentry
  rw [hfilter]
  exact List.perm_middle

end

end RateLimit
