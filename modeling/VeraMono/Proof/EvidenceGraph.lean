import Mathlib.Data.Set.Finite.List
import VeraMono.Model.EvidenceGraph

/-!
# Lineage is closed and unlaundered

The records that are indexed are the ones of the list, each under its own identifier, so the search
over identifiers is one over records. What the checks ask of direct parents holds of all ancestors:
a parent of a derived record is measured or derived, and a measured record has no parents.
-/

namespace VeraMono.EvidenceGraph

open Framework

variable {P : Printing} {records : List Record} {record child parent : Record} {index : Index} {id parentId : Text}

/-! ## Lineage -/

def IsParent (records : List Record) (child parent : Record) : Prop :=
  child ∈ records ∧ parent ∈ records ∧ ∃ id, recordId parent = some id ∧ id ∈ parentsOf child

/-- Records that are valid and complete, with a lineage that is acyclic and does not derive from inferences. -/
structure ClosedLineage (P : Printing) (records : List Record) : Prop where
  valid : ∀ record ∈ records, validateRecord P record = .ok () ∧ (recordId record).isSome = true
  unique : (records.map recordId).Nodup
  present : ∀ child ∈ records, ∀ id ∈ parentsOf child, ∃ parent ∈ records, recordId parent = some id
  direct : ∀ child parent, IsParent records child parent → hasClass child "DERIVED" = true →
    hasClass parent "INFERRED" = false
  acyclic : ∀ record, ¬ Relation.TransGen (IsParent records) record record

/-- No derived record has an inferred ancestor, and every chain of ancestors ends, in a measured record. -/
structure Unlaundered (records : List Record) : Prop where
  derived : ∀ record ancestor, Relation.TransGen (IsParent records) record ancestor →
    hasClass record "DERIVED" = true → hasClass ancestor "INFERRED" = false
  finite : ∀ lineage : ℕ → Record, ¬ ∀ n, IsParent records (lineage n) (lineage (n + 1))
  grounded : ∀ record ∈ records, ∀ ancestor, Relation.ReflTransGen (IsParent records) record ancestor →
    (∀ parent, ¬ IsParent records ancestor parent) → hasClass ancestor "MEASURED" = true

/-! ## One record -/

theorem inTexts_ok {texts : List String} {value : PyValue} {found : Bool} (h : inTexts texts value = .ok found) :
    found = texts.any fun text => value.isText text := by
  unfold inTexts at h
  split at h
  · exact (Except.ok.inj h).symm
  · cases h

theorem ensure_ok {condition : Bool} {message : String} : ensure condition message = .ok () ↔ condition = true := by
  cases condition <;> simp [ensure]

theorem validateTransform_parents (h : validateTransform P record = .ok ()) : parentsOf record ≠ [] := by
  obtain ⟨⟨⟩, hparents, -⟩ := bind_eq_ok.1 h
  rw [ensure_ok, Option.any_eq_true] at hparents
  obtain ⟨parents, hsome, hne⟩ := hparents
  rw [parentsOf, hsome]
  simpa using hne

theorem parentsOf_absent (h : hasField record "parent_record_ids" = false) : parentsOf record = [] := by
  have hnone : dictGet? "parent_record_ids" record = none := by
    simpa [hasField] using h
  rw [parentsOf, field, hnone]
  rfl

/-- A valid record is measured and has no parents, or is derived or inferred and has some. -/
theorem validateRecord_classes (h : validateRecord P record = .ok ()) :
    (hasClass record "MEASURED" = true ∧ parentsOf record = []) ∨
    ((hasClass record "DERIVED" = true ∨ hasClass record "INFERRED" = true) ∧ parentsOf record ≠ []) := by
  simp only [validateRecord, bind_eq_ok] at h
  obtain ⟨⟨⟩, -, known, hknown, ⟨⟩, hensured, _, -, ⟨⟩, -, ⟨⟩, -, ⟨⟩, -, hlineage⟩ := h
  have hclass : ["MEASURED", "DERIVED", "INFERRED"].any (fun text => hasClass record text) = true :=
    (inTexts_ok hknown).symm.trans (ensure_ok.1 hensured)
  unfold validateLineage at hlineage
  split at hlineage
  next hmeasured =>
    refine .inl ⟨hmeasured, parentsOf_absent ?_⟩
    have hnone : transformFields record = [] := List.isEmpty_iff.1 (ensure_ok.1 hlineage)
    simpa using List.filter_eq_nil_iff.1 hnone "parent_record_ids" (by simp)
  next hmeasured =>
    refine .inr ⟨?_, validateTransform_parents hlineage⟩
    simpa [hmeasured] using hclass

/-! ## The index -/

/-- The records of a list, each under its identifier. -/
def Indexes (records : List Record) (index : Index) : Prop :=
  records.map (fun record => (recordId record, record)) = index.map fun entry => (some entry.1, entry.2)

theorem recordOf_isSome : (recordOf index id).isSome = true ↔ id ∈ index.map Prod.fst := by
  induction index with
  | nil => simp [recordOf]
  | cons entry index ih =>
    rw [recordOf] at ih ⊢
    rw [List.lookup_cons]
    by_cases heq : id = entry.1
    · subst heq
      simp
    · have hne : (id == entry.1) = false := by simpa using heq
      simp only [hne, ih, List.map_cons, List.mem_cons, heq, false_or]

theorem recordOf_eq (h : (index.map Prod.fst).Nodup) : recordOf index id = some record ↔ (id, record) ∈ index := by
  induction index with
  | nil => simp [recordOf]
  | cons entry index ih =>
    obtain ⟨hentry, hindex⟩ := List.nodup_cons.1 h
    rw [recordOf] at ih ⊢
    rw [List.lookup_cons]
    by_cases heq : id = entry.1
    · subst heq
      have hnot : (entry.1, record) ∉ index := fun hmem => hentry (List.mem_map.2 ⟨_, hmem, rfl⟩)
      simp [hnot, Prod.ext_iff, eq_comm]
    · have hne : (id == entry.1) = false := by simpa using heq
      simp [hne, ih hindex, Prod.ext_iff, heq]

theorem indexRecord_ok {acc : Index} : indexRecord P acc record = .ok index ↔
    validateRecord P record = .ok () ∧ ∃ id, recordId record = some id ∧ id ∉ acc.map Prod.fst ∧
      index = acc ++ [(id, record)] := by
  rw [indexRecord, bind_eq_ok]
  constructor
  · rintro ⟨⟨⟩, hvalid, h⟩
    refine ⟨hvalid, ?_⟩
    cases hid : recordId record with
    | none => simp [hid, throw_ok] at h
    | some id =>
      simp only [hid] at h
      split_ifs at h with hmem
      exact ⟨id, rfl, mt recordOf_isSome.2 hmem, pure_ok.1 h⟩
  · rintro ⟨hvalid, id, hid, hmem, rfl⟩
    refine ⟨(), hvalid, ?_⟩
    simp only [hid, mt recordOf_isSome.1 hmem]
    rfl

theorem indexRecords_ok (records : List Record) : ∀ acc index : Index, (acc.map Prod.fst).Nodup →
    (records.foldlM (indexRecord P) acc = .ok index ↔
      ∃ new, index = acc ++ new ∧ Indexes records new ∧ (∀ record ∈ records, validateRecord P record = .ok ()) ∧
        (index.map Prod.fst).Nodup) := by
  induction records with
  | nil =>
    intro acc index hacc
    simp only [List.foldlM_nil, pure_ok, Indexes, List.map_nil]
    constructor
    · rintro rfl
      exact ⟨[], by simp, rfl, by simp, hacc⟩
    · rintro ⟨new, rfl, hnew, -, -⟩
      obtain rfl : new = [] := List.map_eq_nil_iff.1 hnew.symm
      simp
  | cons record records ih =>
    intro acc index hacc
    rw [List.foldlM_cons, bind_eq_ok]
    constructor
    · rintro ⟨acc', hfirst, hrest⟩
      obtain ⟨hvalid, id, hid, hnew, rfl⟩ := indexRecord_ok.1 hfirst
      have hacc' : ((acc ++ [(id, record)]).map Prod.fst).Nodup := by
        rw [List.map_append, List.nodup_append]
        exact ⟨hacc, by simp, fun a ha b hb heq => hnew (by simp at hb; rw [← hb, ← heq]; exact ha)⟩
      obtain ⟨new, rfl, hindexes, hvalids, hnodup⟩ := (ih _ _ hacc').1 hrest
      refine ⟨(id, record) :: new, by simp, ?_, List.forall_mem_cons.2 ⟨hvalid, hvalids⟩, hnodup⟩
      simp only [Indexes, List.map_cons, hid] at hindexes ⊢
      rw [hindexes]
    · rintro ⟨new, rfl, hindexes, hvalids, hnodup⟩
      obtain ⟨hvalid, hrest⟩ := List.forall_mem_cons.1 hvalids
      cases new with
      | nil => simp [Indexes] at hindexes
      | cons entry new =>
        simp only [Indexes, List.map_cons, List.cons.injEq, Prod.mk.injEq] at hindexes
        obtain ⟨⟨hid, rfl⟩, hindexes⟩ := hindexes
        have hsplit : acc ++ entry :: new = (acc ++ [(entry.1, entry.2)]) ++ new := by simp
        rw [hsplit] at hnodup ⊢
        have hacc' : ((acc ++ [(entry.1, entry.2)]).map Prod.fst).Nodup := by
          rw [List.map_append] at hnodup
          exact (List.nodup_append.1 hnodup).1
        refine ⟨acc ++ [(entry.1, entry.2)], indexRecord_ok.2 ⟨hvalid, entry.1, hid, ?_, rfl⟩,
          (ih _ _ hacc').2 ⟨new, rfl, hindexes, hrest, hnodup⟩⟩
        rw [List.map_append, List.nodup_append] at hacc'
        exact fun hmem => hacc'.2.2 _ hmem _ (by simp) rfl

/-! ## Identifiers and records -/

theorem Indexes.mem (h : Indexes records index) : (id, record) ∈ index → record ∈ records ∧ recordId record = some id := by
  intro hmem
  have hin : (some id, record) ∈ index.map fun entry => (some entry.1, entry.2) := List.mem_map.2 ⟨_, hmem, rfl⟩
  rw [← h] at hin
  obtain ⟨other, hother, heq⟩ := List.mem_map.1 hin
  obtain ⟨hid, rfl⟩ := Prod.mk.inj heq
  exact ⟨hother, hid⟩

theorem Indexes.exists (h : Indexes records index) (hmem : record ∈ records) :
    ∃ id, recordId record = some id ∧ (id, record) ∈ index := by
  have hin : (recordId record, record) ∈ records.map fun record => (recordId record, record) :=
    List.mem_map.2 ⟨_, hmem, rfl⟩
  rw [h] at hin
  obtain ⟨entry, hentry, heq⟩ := List.mem_map.1 hin
  obtain ⟨hid, hrecord⟩ := Prod.mk.inj heq
  exact ⟨entry.1, hid.symm, hrecord ▸ hentry⟩

theorem Indexes.ids (h : Indexes records index) : records.map recordId = (index.map Prod.fst).map some := by
  have hfst := congrArg (List.map Prod.fst) h
  simpa only [List.map_map, Function.comp_def] using hfst

theorem Indexes.nodup (h : Indexes records index) : (records.map recordId).Nodup ↔ (index.map Prod.fst).Nodup := by
  rw [h.ids]
  exact List.nodup_map_iff (Option.some_injective _)

theorem exists_index (h : ∀ record ∈ records, (recordId record).isSome = true) : ∃ index, Indexes records index := by
  refine ⟨records.filterMap fun record => (recordId record).map fun id => (id, record), ?_⟩
  induction records with
  | nil => rfl
  | cons record records ih =>
    obtain ⟨hrecord, hrecords⟩ := List.forall_mem_cons.1 h
    obtain ⟨id, hid⟩ := Option.isSome_iff_exists.1 hrecord
    have ih := ih hrecords
    simp only [Indexes] at ih ⊢
    simp [hid, ih]

/-! ## The graph -/

theorem checkParent_ok : checkParent index id child parentId = .ok () ↔ ∃ parent, recordOf index parentId = some parent ∧
    (hasClass child "DERIVED" = true → hasClass parent "INFERRED" = false) := by
  unfold checkParent
  cases recordOf index parentId with
  | none => simp
  | some parent =>
    cases hasClass child "DERIVED" <;> cases hasClass parent "INFERRED" <;> simp

section

variable (h : Indexes records index)

include h

theorem isParent_iff : IsParent records child parent ↔
    ∃ id parentId, (id, child) ∈ index ∧ (parentId, parent) ∈ index ∧ parentId ∈ parentsOf child := by
  constructor
  · rintro ⟨hchild, hparent, parentId, hid, hmem⟩
    obtain ⟨id, -, hin⟩ := h.exists hchild
    obtain ⟨parentId', hid', hin'⟩ := h.exists hparent
    obtain rfl := Option.some.inj (hid.symm.trans hid')
    exact ⟨id, parentId, hin, hin', hmem⟩
  · rintro ⟨id, parentId, hin, hin', hmem⟩
    obtain ⟨hchild, -⟩ := h.mem hin
    obtain ⟨hparent, hid⟩ := h.mem hin'
    exact ⟨hchild, hparent, parentId, hid, hmem⟩

omit h in
theorem parentIds_eq (hnodup : (index.map Prod.fst).Nodup) (hmem : (id, record) ∈ index) :
    parentIds index id = parentsOf record := by
  rw [parentIds, (recordOf_eq hnodup).2 hmem]
  rfl

variable (hnodup : (index.map Prod.fst).Nodup)

include hnodup

theorem acyclic_iff (hpresent : ∀ child ∈ records, ∀ id ∈ parentsOf child, ∃ parent ∈ records, recordId parent = some id) :
    Acyclic (parentIds index) ↔ ∀ record, ¬ Relation.TransGen (IsParent records) record record := by
  have hids : ∀ {id parentId : Text}, Child (parentIds index) id parentId →
      ∃ child parent, (id, child) ∈ index ∧ (parentId, parent) ∈ index ∧ IsParent records child parent := by
    intro id parentId hchild
    cases hrecord : recordOf index id with
    | none => simp [Child, parentIds, hrecord] at hchild
    | some child =>
      have hin := (recordOf_eq hnodup).1 hrecord
      have hmem : parentId ∈ parentsOf child := by rwa [Child, parentIds_eq hnodup hin] at hchild
      obtain ⟨hchild', -⟩ := h.mem hin
      obtain ⟨parent, hparent, hid⟩ := hpresent child hchild' parentId hmem
      obtain ⟨parentId', hid', hin'⟩ := h.exists hparent
      obtain rfl := Option.some.inj (hid.symm.trans hid')
      exact ⟨child, parent, hin, hin', hchild', hparent, parentId, hid, hmem⟩
  constructor
  · intro hacyclic record hcycle
    have hstep : ∀ child parent, IsParent records child parent →
        Child (parentIds index) ((recordId child).getD (.valid "")) ((recordId parent).getD (.valid "")) := by
      intro child parent hparent
      obtain ⟨id, parentId, hin, hin', hmem⟩ := (isParent_iff h).1 hparent
      rw [(h.mem hin).2, (h.mem hin').2, Child, Option.getD_some, Option.getD_some, parentIds_eq hnodup hin]
      exact hmem
    exact hacyclic _ (Relation.TransGen.lift (fun record => (recordId record).getD (.valid "")) hstep _ _ hcycle)
  · intro hacyclic id hcycle
    have hstep : ∀ id parentId, Child (parentIds index) id parentId →
        IsParent records ((recordOf index id).getD []) ((recordOf index parentId).getD []) := by
      intro id parentId hchild
      obtain ⟨child, parent, hin, hin', hparent⟩ := hids hchild
      rw [(recordOf_eq hnodup).2 hin, (recordOf_eq hnodup).2 hin', Option.getD_some, Option.getD_some]
      exact hparent
    exact hacyclic _ (Relation.TransGen.lift (fun id => (recordOf index id).getD []) hstep _ _ hcycle)

/-- The search comes to an end on complete records without a cycle, and only there. -/
theorem search_iff (hpresent : ∀ child ∈ records, ∀ id ∈ parentsOf child, ∃ parent ∈ records, recordId parent = some id) :
    (∃ s, visitNodes (parentIds index) cycleError (index.length + 1) (index.map Prod.fst) {} = .ok s) ↔
      ∀ record, ¬ Relation.TransGen (IsParent records) record record := by
  rw [← acyclic_iff h hnodup hpresent]
  have hlength : index.length = (index.map Prod.fst).length := by simp
  rw [hlength]
  refine visitNodes_iff (fun id hid => ?_) fun id hne => ?_
  · obtain ⟨⟨id, child⟩, hin, rfl⟩ := List.mem_map.1 hid
    intro parentId hparent
    rw [parentIds_eq hnodup hin] at hparent
    obtain ⟨parent, hparent', hid⟩ := hpresent child (h.mem hin).1 parentId hparent
    obtain ⟨parentId', hid', hin'⟩ := h.exists hparent'
    obtain rfl := Option.some.inj (hid.symm.trans hid')
    exact List.mem_map.2 ⟨_, hin', rfl⟩
  · by_contra hnone
    have hrecord : recordOf index id = none := by
      rw [← Option.not_isSome_iff_eq_none, recordOf_isSome]
      exact hnone
    simp [parentIds, hrecord] at hne

theorem parents_iff : (∀ entry ∈ index, ∀ parentId ∈ parentsOf entry.2,
      checkParent index entry.1 entry.2 parentId = .ok ()) ↔
    (∀ child ∈ records, ∀ id ∈ parentsOf child, ∃ parent ∈ records, recordId parent = some id) ∧
      ∀ child parent, IsParent records child parent → hasClass child "DERIVED" = true →
        hasClass parent "INFERRED" = false := by
  constructor
  · intro hchecks
    constructor
    · intro child hchild id hid
      obtain ⟨childId, -, hin⟩ := h.exists hchild
      obtain ⟨parent, hparent, -⟩ := checkParent_ok.1 (hchecks _ hin id hid)
      exact ⟨parent, h.mem ((recordOf_eq hnodup).1 hparent)⟩
    · intro child parent hparent
      obtain ⟨id, parentId, hin, hin', hmem⟩ := (isParent_iff h).1 hparent
      obtain ⟨parent', hparent', hclass⟩ := checkParent_ok.1 (hchecks _ hin parentId hmem)
      obtain rfl := Option.some.inj (hparent'.symm.trans ((recordOf_eq hnodup).2 hin'))
      exact hclass
  · rintro ⟨hpresent, hdirect⟩ ⟨id, child⟩ hin parentId hmem
    obtain ⟨parent, hparent, hid⟩ := hpresent child (h.mem hin).1 parentId hmem
    obtain ⟨parentId', hid', hin'⟩ := h.exists hparent
    obtain rfl := Option.some.inj (hid.symm.trans hid')
    exact checkParent_ok.2 ⟨parent, (recordOf_eq hnodup).2 hin',
      hdirect child parent ((isParent_iff h).2 ⟨id, parentId, hin, hin', hmem⟩)⟩

end

theorem validateEvidenceGraph_ok : validateEvidenceGraph P records = .ok () ↔ ClosedLineage P records := by
  unfold validateEvidenceGraph
  rw [bind_eq_ok]
  constructor
  · rintro ⟨index, hindex, hrest⟩
    obtain ⟨new, hnew, hindexes, hvalid, hnodup⟩ := (indexRecords_ok records [] index List.nodup_nil).1 hindex
    obtain rfl : index = new := hnew
    obtain ⟨⟨⟩, hchecks, hsearch⟩ := bind_eq_ok.1 hrest
    obtain ⟨s, hsearch, -⟩ := bind_eq_ok.1 hsearch
    have hchecks' : ∀ entry ∈ index, ∀ parentId ∈ parentsOf entry.2,
        checkParent index entry.1 entry.2 parentId = .ok () := fun entry hentry =>
      forM_ok.1 (forM_ok.1 hchecks entry hentry)
    obtain ⟨hpresent, hdirect⟩ := (parents_iff hindexes hnodup).1 hchecks'
    refine ⟨fun record hrecord => ⟨hvalid record hrecord, ?_⟩, hindexes.nodup.2 hnodup, hpresent, hdirect,
      (search_iff hindexes hnodup hpresent).1 ⟨s, hsearch⟩⟩
    obtain ⟨id, hid, -⟩ := hindexes.exists hrecord
    simp [hid]
  · intro h
    obtain ⟨index, hindexes⟩ := exists_index fun record hrecord => (h.valid record hrecord).2
    have hnodup := hindexes.nodup.1 h.unique
    have hchecks := (parents_iff hindexes hnodup).2 ⟨h.present, h.direct⟩
    obtain ⟨s, hsearch⟩ := (search_iff hindexes hnodup h.present).2 h.acyclic
    refine ⟨index, (indexRecords_ok records [] index List.nodup_nil).2
      ⟨index, rfl, hindexes, fun record hrecord => (h.valid record hrecord).1, hnodup⟩, ?_⟩
    rw [bind_eq_ok]
    refine ⟨(), forM_ok.2 fun entry hentry => forM_ok.2 (hchecks entry hentry), ?_⟩
    rw [hsearch]
    rfl

/-! ## Ancestors -/

theorem ClosedLineage.derived (h : ClosedLineage P records) {ancestor : Record}
    (hancestor : Relation.TransGen (IsParent records) record ancestor) (hderived : hasClass record "DERIVED" = true) :
    hasClass ancestor "INFERRED" = false := by
  induction hancestor using Relation.TransGen.head_induction_on with
  | single hparent => exact h.direct _ _ hparent hderived
  | head hparent hrest ih =>
    refine ih ?_
    obtain ⟨next, hnext, -⟩ := Relation.TransGen.head'_iff.1 hrest
    obtain ⟨-, -, id, -, hmem⟩ := hnext
    obtain ⟨-, hnone⟩ | ⟨hclass | hclass, -⟩ := validateRecord_classes (h.valid _ hparent.2.1).1
    · rw [hnone] at hmem
      cases hmem
    · exact hclass
    · exact absurd (hclass.symm.trans (h.direct _ _ hparent hderived)) (by decide)

/-- A chain of ancestors that went on would come back to itself. -/
theorem ClosedLineage.finite (h : ClosedLineage P records) (lineage : ℕ → Record) :
    ¬ ∀ n, IsParent records (lineage n) (lineage (n + 1)) := by
  intro hlineage
  have hmaps : Set.MapsTo lineage Set.univ {record | record ∈ records} := fun n _ => (hlineage n).1
  obtain ⟨i, -, j, -, hne, heq⟩ :=
    Set.infinite_univ.exists_ne_map_eq_of_mapsTo hmaps (List.finite_toSet records)
  have hlater : ∀ i k, Relation.TransGen (IsParent records) (lineage i) (lineage (i + k + 1)) := by
    intro i k
    induction k with
    | zero => exact .single (hlineage i)
    | succ k ih => exact ih.tail (hlineage _)
  rcases lt_or_gt_of_ne hne with hlt | hlt
  · obtain ⟨k, rfl⟩ := Nat.exists_eq_add_of_lt hlt
    exact h.acyclic _ (heq ▸ hlater i k)
  · obtain ⟨k, rfl⟩ := Nat.exists_eq_add_of_lt hlt
    exact h.acyclic _ (heq ▸ hlater j k)

theorem ClosedLineage.grounded (h : ClosedLineage P records) (hrecord : record ∈ records) {ancestor : Record}
    (hancestor : Relation.ReflTransGen (IsParent records) record ancestor)
    (hlast : ∀ parent, ¬ IsParent records ancestor parent) : hasClass ancestor "MEASURED" = true := by
  have hmem : ancestor ∈ records := by
    obtain rfl | ⟨child, -, hparent⟩ := hancestor.cases_tail
    · exact hrecord
    · exact hparent.2.1
  obtain ⟨hmeasured, -⟩ | ⟨-, hparents⟩ := validateRecord_classes (h.valid ancestor hmem).1
  · exact hmeasured
  · obtain ⟨id, hid⟩ := List.exists_mem_of_ne_nil _ hparents
    obtain ⟨parent, hparent, hid'⟩ := h.present ancestor hmem id hid
    exact absurd ⟨hmem, hparent, id, hid', hid⟩ (hlast parent)

/-- The graph is accepted exactly when its lineage is closed, and then it is unlaundered. -/
theorem validateEvidenceGraph_unlaundered (P : Printing) (records : List Record) :
    (validateEvidenceGraph P records = .ok () ↔ ClosedLineage P records) ∧
      (validateEvidenceGraph P records = .ok () → Unlaundered records) := by
  refine ⟨validateEvidenceGraph_ok, fun hok => ?_⟩
  have h := validateEvidenceGraph_ok.1 hok
  exact ⟨fun record ancestor hancestor hderived => h.derived hancestor hderived, h.finite,
    fun record hrecord ancestor hancestor hlast => h.grounded hrecord hancestor hlast⟩

end VeraMono.EvidenceGraph
