import Mathlib.Data.List.Nodup

/-!
# File trees

The files of a version-controlled tree by their paths. A path is a file or a directory, not
both: no file lies below another (`FileTree.apart`). So a tree refuses a file below another or
above one (`FileTree.update?`), and `file?_of_update?` says what an update that is not refused
leaves at each path.
-/

namespace VeraMono.Framework

variable {F : Type}

/-- The path lies in the directory. -/
def Below (directory path : String) : Prop := directory.toList ++ ['/'] <+: path.toList

instance (directory path : String) : Decidable (Below directory path) :=
  inferInstanceAs (Decidable (_ <+: _))

structure FileTree (F : Type) where
  entries : List (String × F)
  nodup : (entries.map Prod.fst).Nodup
  apart : ∀ e ∈ entries, ∀ e' ∈ entries, ¬ Below e.1 e'.1
  deriving DecidableEq

namespace FileTree

variable {t : FileTree F} {path q : String}

def empty : FileTree F := ⟨[], List.nodup_nil, fun _ h => absurd h List.not_mem_nil⟩

def file? (t : FileTree F) (path : String) : Option F := t.entries.lookup path

/-- Files lie in the path. -/
def IsDirectory (t : FileTree F) (path : String) : Prop := ∃ e ∈ t.entries, Below path e.1

instance (t : FileTree F) (path : String) : Decidable (t.IsDirectory path) :=
  inferInstanceAs (Decidable (∃ e ∈ t.entries, Below path e.1))

/-- The entries with a file at a path, or without one. -/
def setEntry (entries : List (String × F)) (change : String × Option F) : List (String × F) :=
  (change.2.map fun f => (change.1, f)).toList ++ entries.filter fun e => e.1 ≠ change.1

/-- The tree with changes, one after the other, or none when a file would lie below another. -/
def update? (changes : List (String × Option F)) (t : FileTree F) : Option (FileTree F) :=
  let entries := changes.foldl setEntry t.entries
  if h : (entries.map Prod.fst).Nodup ∧ ∀ e ∈ entries, ∀ e' ∈ entries, ¬ Below e.1 e'.1 then
    some ⟨entries, h.1, h.2⟩
  else none

theorem lookup_filter_ne {entries : List (String × F)} (h : q ≠ path) :
    (entries.filter fun e => e.1 ≠ path).lookup q = entries.lookup q := by
  induction entries with
  | nil => rfl
  | cons e es ih =>
    obtain ⟨k, g⟩ := e
    rw [List.filter_cons, List.lookup_cons]
    by_cases hk : k = path
    · subst hk
      rw [beq_eq_false_iff_ne.2 h]
      simpa using ih
    · rw [if_pos (by simpa using hk), List.lookup_cons, ih]

theorem lookup_filter_self {entries : List (String × F)} :
    (entries.filter fun e => e.1 ≠ path).lookup path = none := by
  rw [List.lookup_eq_none_iff]
  intro e he
  have hne : e.1 ≠ path := by simpa using List.of_mem_filter he
  simpa using hne.symm

theorem lookup_setEntry (entries : List (String × F)) (change : String × Option F) :
    (setEntry entries change).lookup q = if change.1 = q then change.2 else entries.lookup q := by
  obtain ⟨path, f⟩ := change
  by_cases h : path = q
  · subst h
    cases f with
    | none => simpa [setEntry] using lookup_filter_self
    | some f => simp [setEntry]
  · have hne : (q == path) = false := beq_eq_false_iff_ne.2 (Ne.symm h)
    rw [if_neg h]
    refine Eq.trans ?_ (lookup_filter_ne (Ne.symm h))
    cases f with
    | none => rfl
    | some f =>
      simp only [setEntry, Option.map_some, Option.toList_some, List.cons_append, List.nil_append,
        List.lookup_cons, hne]

theorem lookup_foldl (changes : List (String × Option F)) (entries : List (String × F)) :
    (changes.foldl setEntry entries).lookup q =
      changes.foldl (fun f change => if change.1 = q then change.2 else f) (entries.lookup q) := by
  induction changes generalizing entries with
  | nil => rfl
  | cons change changes ih => rw [List.foldl_cons, ih, lookup_setEntry, List.foldl_cons]

/-- What an update leaves at a path: the last change of it, or what was there. -/
theorem file?_of_update? {changes : List (String × Option F)} {t' : FileTree F} (h : t.update? changes = some t') :
    t'.file? q = changes.foldl (fun f change => if change.1 = q then change.2 else f) (t.file? q) := by
  rw [update?] at h
  split at h
  · cases h
    exact lookup_foldl changes t.entries
  · cases h

end FileTree

end VeraMono.Framework
