import Mathlib.Data.Finset.Card
import Mathlib.Logic.Relation
import VeraMono.Framework.Checks

/-!
# Depth-first search for cycles

A search that keeps the nodes on its path (`visiting`) and the nodes that are done (`visited`), and
fails when it comes back to its path. It visits all nodes exactly when there is no cycle: the nodes
that are done have finished descents (`Acc`), and on an acyclic graph the path never repeats, so as
much fuel as there are nodes is enough.
-/

namespace VeraMono.Framework

variable {N : Type} [DecidableEq N] {ε : Type}

structure Search (N : Type) where
  visiting : List N := []
  visited : List N := []

variable (children : N → List N) (cycle : N → ε)

/-- Visits a node and what is below it, with at most `fuel` nodes on the way down. -/
def visitNode : Nat → N → Search N → Except ε (Search N)
  | 0, n, _ => .error (cycle n)
  | fuel + 1, n, s =>
    if n ∈ s.visiting then .error (cycle n)
    else if n ∈ s.visited then .ok s
    else do
      let s ← (children n).foldlM (fun s child => visitNode fuel child s) { s with visiting := n :: s.visiting }
      return { visiting := s.visiting.erase n, visited := n :: s.visited }

def visitNodes (fuel : Nat) (nodes : List N) (s : Search N) : Except ε (Search N) :=
  nodes.foldlM (fun s n => visitNode children cycle fuel n s) s

def Child (n child : N) : Prop := child ∈ children n

/-- There is no way from a node back to itself. -/
def Acyclic : Prop := ∀ n, ¬ Relation.TransGen (Child children) n n

variable {children cycle} {fuel : Nat} {n : N} {nodes : List N} {s s' : Search N}

def Descends (children : N → List N) (n : N) : Prop := Acc (fun child parent => Child children parent child) n

/-! ## What is done descends -/

/-- A run over a list keeps what each visit keeps. -/
theorem visitNodes_sound (hvisit : ∀ n s s', visitNode children cycle fuel n s = .ok s' →
      (∀ m ∈ s.visited, Descends children m) →
      (∀ m ∈ s'.visited, Descends children m) ∧ n ∈ s'.visited ∧ s.visited ⊆ s'.visited)
    (nodes : List N) : ∀ s s', visitNodes children cycle fuel nodes s = .ok s' →
      (∀ m ∈ s.visited, Descends children m) →
      (∀ m ∈ s'.visited, Descends children m) ∧ nodes ⊆ s'.visited ∧ s.visited ⊆ s'.visited := by
  induction nodes with
  | nil =>
    intro s s' h hs
    obtain rfl := pure_ok.1 h
    exact ⟨hs, List.nil_subset _, List.Subset.refl _⟩
  | cons n nodes ih =>
    intro s s' h hs
    rw [visitNodes, List.foldlM_cons, bind_eq_ok] at h
    obtain ⟨t, ht, h⟩ := h
    obtain ⟨htd, hmem, hst⟩ := hvisit n s t ht hs
    obtain ⟨hd, hsub, hts'⟩ := ih t s' h htd
    exact ⟨hd, List.cons_subset.2 ⟨hts' hmem, hsub⟩, fun m hm => hts' (hst hm)⟩

theorem visitNode_sound (fuel : Nat) : ∀ n s s', visitNode children cycle fuel n s = .ok s' →
    (∀ m ∈ s.visited, Descends children m) →
    (∀ m ∈ s'.visited, Descends children m) ∧ n ∈ s'.visited ∧ s.visited ⊆ s'.visited := by
  induction fuel with
  | zero =>
    intro n s s' h
    cases h
  | succ fuel ih =>
    intro n s s' h hs
    rw [visitNode] at h
    split at h
    · cases h
    split at h
    next hvisited =>
      obtain rfl := Except.ok.inj h
      exact ⟨hs, hvisited, List.Subset.refl _⟩
    next =>
      obtain ⟨t, ht, h⟩ := bind_eq_ok.1 h
      obtain rfl := pure_ok.1 h
      obtain ⟨htd, hsub, hst⟩ := visitNodes_sound ih (children n) _ t ht hs
      refine ⟨fun m hm => ?_, List.mem_cons_self, fun m hm => List.mem_cons_of_mem _ (hst hm)⟩
      obtain rfl | hm := List.mem_cons.1 hm
      · exact .intro m fun child hchild => htd child (hsub hchild)
      · exact htd m hm

/-! ## An acyclic graph is visited -/

/-- The nodes on the path lead to a node. -/
structure OnPath (children : N → List N) (nodes : List N) (s : Search N) (n : N) : Prop where
  leads : ∀ m ∈ s.visiting, Relation.TransGen (Child children) m n
  nodup : s.visiting.Nodup
  within : s.visiting ⊆ nodes
  node : n ∈ nodes

omit [DecidableEq N] in
theorem OnPath.congr (h : OnPath children nodes s n) (hs : s'.visiting = s.visiting) : OnPath children nodes s' n :=
  ⟨hs ▸ h.leads, hs ▸ h.nodup, hs ▸ h.within, h.node⟩

omit [DecidableEq N] in
theorem OnPath.length_lt (h : OnPath children nodes s n) (hn : n ∉ s.visiting) : s.visiting.length < nodes.length := by
  have hsub : n :: s.visiting ⊆ nodes := List.cons_subset.2 ⟨h.node, h.within⟩
  have hnodup : (n :: s.visiting).Nodup := List.nodup_cons.2 ⟨hn, h.nodup⟩
  exact (hnodup.subperm hsub).length_le

theorem visitNodes_complete {P : Search N → N → Prop}
    (hvisit : ∀ n s, P s n → ∃ s', visitNode children cycle fuel n s = .ok s' ∧ s'.visiting = s.visiting)
    (hP : ∀ n s s', s'.visiting = s.visiting → P s n → P s' n) (list : List N) : ∀ s, (∀ n ∈ list, P s n) →
      ∃ s', visitNodes children cycle fuel list s = .ok s' ∧ s'.visiting = s.visiting := by
  induction list with
  | nil => exact fun s _ => ⟨s, rfl, rfl⟩
  | cons n list ih =>
    intro s h
    obtain ⟨t, ht, hvisiting⟩ := hvisit n s (h n List.mem_cons_self)
    obtain ⟨s', hs', hvisiting'⟩ := ih t fun m hm => hP m s t hvisiting (h m (List.mem_cons_of_mem _ hm))
    refine ⟨s', ?_, hvisiting'.trans hvisiting⟩
    rw [visitNodes, List.foldlM_cons, ht]
    exact hs'

theorem visitNode_complete (hacyclic : Acyclic children) (hclosed : ∀ n ∈ nodes, children n ⊆ nodes) (fuel : Nat) :
    ∀ n s, OnPath children nodes s n ∧ nodes.length < fuel + s.visiting.length →
      ∃ s', visitNode children cycle fuel n s = .ok s' ∧ s'.visiting = s.visiting := by
  induction fuel with
  | zero =>
    rintro n s ⟨h, hfuel⟩
    have hn : n ∉ s.visiting := fun hn => hacyclic n (h.leads n hn)
    have := h.length_lt hn
    omega
  | succ fuel ih =>
    rintro n s ⟨h, hfuel⟩
    have hn : n ∉ s.visiting := fun hn => hacyclic n (h.leads n hn)
    rw [visitNode, if_neg hn]
    split
    · exact ⟨s, rfl, rfl⟩
    have hbelow : ∀ child ∈ children n,
        OnPath children nodes { s with visiting := n :: s.visiting } child ∧
          nodes.length < fuel + (n :: s.visiting).length := by
      intro child hchild
      refine ⟨⟨fun m hm => ?_, List.nodup_cons.2 ⟨hn, h.nodup⟩, List.cons_subset.2 ⟨h.node, h.within⟩,
        hclosed n h.node hchild⟩, by simp only [List.length_cons]; omega⟩
      obtain rfl | hm := List.mem_cons.1 hm
      · exact .single hchild
      · exact (h.leads m hm).tail hchild
    obtain ⟨t, ht, hvisiting⟩ := visitNodes_complete ih (fun m s s' hs hP =>
      ⟨hP.1.congr hs, hs ▸ hP.2⟩) (children n) _ hbelow
    rw [visitNodes] at ht
    rw [ht, ok_bind]
    exact ⟨_, rfl, by rw [hvisiting, List.erase_cons_head]⟩

/-! ## The search -/

omit [DecidableEq N] in
theorem descends_irrefl (h : Descends children n) : ¬ Relation.TransGen (Child children) n n := by
  intro hcycle
  have hacc : Acc (Relation.TransGen fun child parent => Child children parent child) n := h.transGen
  have hcycle' : Relation.TransGen (fun child parent => Child children parent child) n n :=
    Relation.transGen_swap.1 hcycle
  have hirrefl : ∀ m, Acc (Relation.TransGen fun child parent => Child children parent child) m →
      ¬ Relation.TransGen (fun child parent => Child children parent child) m m := by
    intro m hm
    induction hm with
    | intro m _ ih => exact fun h => ih m h h
  exact hirrefl n hacc hcycle'

/-- The search of a graph without a cycle succeeds. -/
theorem visitNodes_of_acyclic (cycle : N → ε) (hacyclic : Acyclic children) (hclosed : ∀ n ∈ nodes, children n ⊆ nodes) :
    ∃ s, visitNodes children cycle (nodes.length + 1) nodes {} = .ok s := by
  obtain ⟨s, hs, -⟩ := visitNodes_complete (visitNode_complete hacyclic hclosed (nodes.length + 1)) (fun m s s' hs hP =>
    ⟨hP.1.congr hs, hs ▸ hP.2⟩) nodes {} fun n hn =>
      ⟨⟨fun m hm => absurd hm List.not_mem_nil, List.nodup_nil, List.nil_subset _, hn⟩, by simp⟩
  exact ⟨s, hs⟩

theorem descends_of_acyclic (hacyclic : Acyclic children) (hclosed : ∀ n ∈ nodes, children n ⊆ nodes)
    (hn : n ∈ nodes) : Descends children n := by
  obtain ⟨s, hs⟩ := visitNodes_of_acyclic id hacyclic hclosed
  obtain ⟨hdescends, hsub, -⟩ := visitNodes_sound (visitNode_sound _) nodes {} s hs
    fun m hm => absurd hm List.not_mem_nil
  exact hdescends n (hsub hn)

/-- The search succeeds exactly on graphs without a cycle. -/
theorem visitNodes_iff (hclosed : ∀ n ∈ nodes, children n ⊆ nodes) (hnodes : ∀ n, children n ≠ [] → n ∈ nodes) :
    (∃ s, visitNodes children cycle (nodes.length + 1) nodes {} = .ok s) ↔ Acyclic children := by
  constructor
  · rintro ⟨s, hs⟩ n hcycle
    obtain ⟨hdescends, hsub, -⟩ := visitNodes_sound (visitNode_sound _) nodes {} s hs
      fun m hm => absurd hm List.not_mem_nil
    have hn : n ∈ nodes := by
      refine hnodes n ?_
      obtain ⟨child, hchild, -⟩ := Relation.TransGen.head'_iff.1 hcycle
      exact List.ne_nil_of_mem hchild
    exact descends_irrefl (hdescends n (hsub hn)) hcycle
  · exact fun hacyclic => visitNodes_of_acyclic cycle hacyclic hclosed

end VeraMono.Framework
