import VeraMono.Framework.Checks
import VeraMono.Framework.Readers
import VeraMono.Framework.Returning
import VeraMono.Model.ContextualInterpretation
import VeraMono.Model.ResourceLease

/-!
# Contextual interpretations stay readable

Every row of a reachable store is the row of a record (`Inv`), and the interpretations stand in an
order in which each comes after the one it supersedes (`Grounded`). An admission promises to append
only, and every read of a call is stable under that; so no check of a reader fails, however the
transactions of other connections fall between its reads.
-/

open VeraMono.Framework

namespace VeraMono.Contextual

variable {J D : Type} [DecidableEq D] {lib : Library J D}

/-! ## Rows and records -/

theorem mapM_textOf (atoms : List String) : (atoms.map Json.str).mapM textOf = some atoms := by
  induction atoms with
  | nil => rfl
  | cons a atoms ih => simp [List.mapM_cons, textOf, ih]

theorem ContextualInterpretation.make_fields (v : ContextualInterpretation) :
    ContextualInterpretation.make v.interpretationId v.objectId v.meaning v.sourceRef v.requiredContext
      v.excludedContext v.supersedesId = .ok v := by
  obtain ⟨hid, hobject, hmeaning, hsource, hrequired, hexcluded, hdisjoint, hsupersedes⟩ := v.valid
  rw [make, dif_pos hid, dif_pos hobject, dif_pos hmeaning, dif_pos hsource, dif_pos hrequired,
    dif_pos hexcluded, dif_pos hdisjoint, dif_pos hsupersedes]

theorem InterpretationRelation.make_fields (r : InterpretationRelation) :
    InterpretationRelation.make r.relationId r.leftId r.rightId r.kind r.sourceRef = .ok r := by
  obtain ⟨hid, hleft, hright, hsource, hdistinct⟩ := r.valid
  rw [make, dif_pos hid, dif_pos hleft, dif_pos hright, dif_pos hsource, dif_pos hdistinct]

theorem InterpretationRelationKind.ofText?_value (k : InterpretationRelationKind) : ofText? k.value = some k := by
  cases k <;> rfl

theorem interpretationOf_manifest (v : ContextualInterpretation) (entries : List (String × Json))
    (h : v.manifest = .obj entries) : interpretationOf entries = some v := by
  obtain rfl := Json.obj.inj h
  have hsupersedes : optionalAt "supersedes_id" [("supersedes_id", v.supersedesId.elim Json.null Json.str)] =
      some v.supersedesId := by
    cases v.supersedesId <;> rfl
  simp only [optionalAt, List.lookup_cons, String.reduceBEq] at hsupersedes
  simp only [interpretationOf, textAt, atomsAt, optionalAt, List.lookup_cons, textOf, Option.bind_eq_bind, Option.bind_some,
    String.reduceBEq, mapM_textOf, Option.map_some, Finset.sort_toFinset, hsupersedes,
    ContextualInterpretation.make_fields, Except.toOption]

theorem relationOf_manifest (r : InterpretationRelation) (entries : List (String × Json))
    (h : r.manifest = .obj entries) : relationOf entries = some r := by
  obtain rfl := Json.obj.inj h
  simp only [relationOf, textAt, List.lookup_cons, textOf, Option.bind_eq_bind, Option.bind_some, String.reduceBEq,
    InterpretationRelationKind.ofText?_value, InterpretationRelation.make_fields, Except.toOption]

theorem decode_interpretationRow (hlib : lib.Faithful) (v : ContextualInterpretation) :
    decodeInterpretationRow lib (interpretationRow lib v) = .ok v := by
  have hentries : ∃ entries, v.manifest = .obj entries := ⟨_, rfl⟩
  obtain ⟨entries, hm⟩ := hentries
  have hload := hlib.interpretation v
  rw [hm] at hload
  simp only [decodeInterpretationRow, interpretationRow, hm, hload, interpretationOf_manifest v entries hm,
    ne_eq, not_true_eq_false, or_self, if_false]

theorem decode_relationRow (hlib : lib.Faithful) (r : InterpretationRelation) :
    decodeRelationRow lib (relationRow lib r) = .ok r := by
  have hentries : ∃ entries, r.manifest = .obj entries := ⟨_, rfl⟩
  obtain ⟨entries, hm⟩ := hentries
  have hload := hlib.relation r
  rw [hm] at hload
  simp only [decodeRelationRow, relationRow, hm, hload, relationOf_manifest r entries hm,
    ne_eq, not_true_eq_false, or_self, if_false]

theorem interpretationRow_injective (hlib : lib.Faithful) : Function.Injective (interpretationRow lib) :=
  fun v w h => Except.ok.inj ((decode_interpretationRow hlib v).symm.trans (h ▸ decode_interpretationRow hlib w))

theorem relationRow_injective (hlib : lib.Faithful) : Function.Injective (relationRow lib) :=
  fun r q h => Except.ok.inj ((decode_relationRow hlib r).symm.trans (h ▸ decode_relationRow hlib q))

/-! ## The record -/

/-- The interpretation has its row in the store. -/
def Admitted (lib : Library J D) (s : Store J D) (v : ContextualInterpretation) : Prop :=
  interpretationRow lib v ∈ s.interpretations.rows

def Related (lib : Library J D) (s : Store J D) (r : InterpretationRelation) : Prop :=
  relationRow lib r ∈ s.relations.rows

/-- An interpretation of the same object that the list holds is superseded. -/
def TargetIn (vs : List ContextualInterpretation) (v : ContextualInterpretation) : Prop :=
  ∀ t, v.supersedesId = some t → ∃ w ∈ vs, w.interpretationId = t ∧ w.objectId = v.objectId

/-- Interpretations in an order in which each comes after the one it supersedes. -/
inductive Grounded : List ContextualInterpretation → Prop
  | nil : Grounded []
  | snoc {vs : List ContextualInterpretation} {v : ContextualInterpretation} :
      Grounded vs → TargetIn vs v → Grounded (vs ++ [v])

/-- Every row is the row of a record whose references are there. -/
structure Inv (lib : Library J D) (s : Store J D) : Prop where
  grounded : ∃ vs, s.interpretations.rows = vs.map (interpretationRow lib) ∧ Grounded vs
  related : ∀ row ∈ s.relations.rows, ∃ r, row = relationRow lib r ∧
    (∃ v, Admitted lib s v ∧ v.interpretationId = r.leftId) ∧ ∃ v, Admitted lib s v ∧ v.interpretationId = r.rightId

/-- Rows are added at the end. -/
structure Grows (s s' : Store J D) : Prop where
  interpretations : s.interpretations.rows <+: s'.interpretations.rows
  relations : s.relations.rows <+: s'.relations.rows

section
omit [DecidableEq D]
variable {s s' s'' : Store J D} {v w : ContextualInterpretation} {r : InterpretationRelation} {id : String}

theorem Grows.refl (s : Store J D) : Grows s s := ⟨List.prefix_refl _, List.prefix_refl _⟩

theorem Grows.trans (h : Grows s s') (h' : Grows s' s'') : Grows s s'' :=
  ⟨h.interpretations.trans h'.interpretations, h.relations.trans h'.relations⟩

theorem Grows.admitted (h : Grows s s') (hv : Admitted lib s v) : Admitted lib s' v := h.interpretations.subset hv

theorem Grows.related (h : Grows s s') (hr : Related lib s r) : Related lib s' r := h.relations.subset hr

theorem Admitted.get? (h : Admitted lib s v) :
    s.interpretations.get? v.interpretationId = some (interpretationRow lib v) :=
  Table.get?_of_mem h

theorem Inv.row (h : Inv lib s) {row : InterpretationRow J D} (hrow : row ∈ s.interpretations.rows) :
    ∃ v, row = interpretationRow lib v ∧ Admitted lib s v := by
  obtain ⟨vs, hrows, -⟩ := h.grounded
  obtain ⟨v, -, rfl⟩ := List.mem_map.1 (hrows ▸ hrow)
  exact ⟨v, rfl, hrow⟩

theorem Inv.found (h : Inv lib s) {row : InterpretationRow J D} (hrow : s.interpretations.get? id = some row) :
    ∃ v, row = interpretationRow lib v ∧ Admitted lib s v ∧ v.interpretationId = id := by
  have hkey := Table.get?_key hrow
  obtain ⟨v, rfl, hv⟩ := h.row (Table.mem_of_get? hrow)
  exact ⟨v, rfl, hv, hkey⟩

theorem Inv.foundRelation (h : Inv lib s) {row : RelationRow J D} (hrow : s.relations.get? id = some row) :
    ∃ r, row = relationRow lib r ∧ Related lib s r ∧ r.relationId = id := by
  have hkey := Table.get?_key hrow
  obtain ⟨r, rfl, -⟩ := h.related row (Table.mem_of_get? hrow)
  exact ⟨r, rfl, Table.mem_of_get? hrow, hkey⟩

theorem Inv.endpoints (hinj : Function.Injective (relationRow lib)) (h : Inv lib s) (hr : Related lib s r) :
    (∃ v, Admitted lib s v ∧ v.interpretationId = r.leftId) ∧ ∃ v, Admitted lib s v ∧ v.interpretationId = r.rightId := by
  obtain ⟨q, hq, hends⟩ := h.related _ hr
  exact hinj hq ▸ hends

theorem Inv.empty (lib : Library J D) : Inv lib (Store.empty : Store J D) where
  grounded := ⟨[], rfl, .nil⟩
  related _ h := by cases h

theorem Admitted.unique (hinj : Function.Injective (interpretationRow lib)) (hv : Admitted lib s v)
    (hw : Admitted lib s w) (h : v.interpretationId = w.interpretationId) : v = w :=
  hinj (Option.some.inj (hv.get?.symm.trans (h ▸ hw.get?)))

/-! ## The order of supersession -/

variable {vs : List ContextualInterpretation}

theorem Grounded.target (h : Grounded vs) (hv : v ∈ vs) : TargetIn vs v := by
  induction h with
  | nil => cases hv
  | @snoc vs u _ hu ih =>
    have hwiden (x : ContextualInterpretation) (hx : TargetIn vs x) : TargetIn (vs ++ [u]) x := fun t ht =>
      (hx t ht).imp fun y hy => ⟨List.mem_append_left _ hy.1, hy.2⟩
    rcases List.mem_append.1 hv with hv | hv
    · exact hwiden v (ih hv)
    · rw [List.mem_singleton.1 hv]
      exact hwiden u hu

/-- The interpretations of one object are grounded among themselves. -/
theorem Grounded.object (h : Grounded vs) (objectId : String) :
    Grounded (vs.filter fun v => v.objectId = objectId) := by
  induction h with
  | nil => exact .nil
  | @snoc vs u _ hu ih =>
    rw [List.filter_append]
    by_cases hobject : u.objectId = objectId
    · rw [List.filter_singleton, decide_eq_true hobject, cond_true]
      refine ih.snoc fun t ht => ?_
      obtain ⟨w, hw, hid, hsame⟩ := hu t ht
      exact ⟨w, List.mem_filter.2 ⟨hw, by simpa using hsame.trans hobject⟩, hid, hsame⟩
    · simpa [hobject] using ih

theorem Grounded.idxOf_lt (h : Grounded vs)
    (hn : (vs.map (·.interpretationId)).Nodup) (hv : v ∈ vs) (hw : w ∈ vs)
    (hs : v.supersedesId = some w.interpretationId) : vs.idxOf w < vs.idxOf v := by
  induction h with
  | nil => cases hv
  | @snoc vs u hvs hu ih =>
    rw [List.map_append, List.nodup_append] at hn
    have hfresh : ∀ x ∈ vs, x.interpretationId ≠ u.interpretationId := fun x hx =>
      hn.2.2 _ (List.mem_map_of_mem hx) _ (by simp)
    have hnot : u ∉ vs := fun hmem => hfresh u hmem rfl
    have hearlier (x : ContextualInterpretation) (hx : TargetIn vs x)
        (hxw : x.supersedesId = some w.interpretationId) : w ∈ vs := by
      obtain ⟨y, hy, hid, -⟩ := hx _ hxw
      rcases List.mem_append.1 hw with hw | hw
      · exact hw
      · rw [List.mem_singleton.1 hw] at hid
        exact absurd hid (hfresh y hy)
    rcases List.mem_append.1 hv with hv | hv
    · have hw' := hearlier v (hvs.target hv) hs
      rw [List.idxOf_append_of_mem hw', List.idxOf_append_of_mem hv]
      exact ih hn.1 hv hw'
    · obtain rfl := List.mem_singleton.1 hv
      have hw' := hearlier v hu hs
      rw [List.idxOf_append_of_mem hw', List.idxOf_append_of_notMem hnot]
      exact Nat.lt_of_lt_of_le (List.idxOf_lt_length_of_mem hw') (Nat.le_add_right _ _)

/-- The walk over grounded values ends, and meets no value twice. -/
theorem walkValues_ok {values vs : List ContextualInterpretation} (h : Grounded vs)
    (hn : (vs.map (·.interpretationId)).Nodup)
    (hfind : ∀ w ∈ vs, (values.find? fun x => x.interpretationId = w.interpretationId) = some w) :
    ∀ {v : ContextualInterpretation} {fuel : Nat} {seen : List String}, v ∈ vs → vs.length ≤ fuel →
      (∀ w ∈ vs, w.interpretationId ∉ seen) → walkValues values fuel seen v = .ok () := by
  induction h with
  | nil => exact fun hv => by cases hv
  | @snoc vs u hvs hu ih =>
    intro v fuel seen hv hfuel hseen
    rw [List.map_append, List.nodup_append] at hn
    have hfresh : ∀ x ∈ vs, x.interpretationId ≠ u.interpretationId := fun x hx =>
      hn.2.2 _ (List.mem_map_of_mem hx) _ (by simp)
    have ih' := @ih hn.1 fun w hw => hfind w (List.mem_append_left _ hw)
    rw [List.length_append, List.length_singleton] at hfuel
    rcases List.mem_append.1 hv with hv | hv
    · exact ih' hv (by omega) fun w hw => hseen w (List.mem_append_left _ hw)
    · obtain rfl := List.mem_singleton.1 hv
      rw [walkValues.eq_def]
      dsimp only
      cases ht : v.supersedesId with
      | none => rfl
      | some t =>
        obtain ⟨w, hw, rfl, -⟩ := hu t ht
        obtain ⟨fuel, rfl⟩ : ∃ n, fuel = n + 1 := ⟨fuel - 1, by omega⟩
        simp only [hseen v (List.mem_append_right _ hv), if_false, hfind w (List.mem_append_left _ hw)]
        refine ih' hw (Nat.le_of_succ_le_succ hfuel) fun x hx => ?_
        rw [List.mem_cons, not_or]
        exact ⟨hfresh x hx, hseen x (List.mem_append_left _ hx)⟩

end

/-! ## Admissions -/

/-- Every call assumes and promises that rows are only added. -/
def storeContract (lib : Library J D) : Contract Empty (Store J D) := ⟨Inv lib, fun _ _ => Grows, fun _ _ => Grows⟩

/-- The moves of a call that has written nothing. -/
def Quiet (h : List (Move Empty (Store J D))) : Prop := ∀ m ∈ h, m.after = m.before

/-- An admitted interpretation of this id. -/
def Known (lib : Library J D) (s : Store J D) (id : String) : Prop :=
  ∃ v, Admitted lib s v ∧ v.interpretationId = id

/-- What an interpretation supersedes is admitted, and of its object. -/
def TargetAdmitted (lib : Library J D) (s : Store J D) (v : ContextualInterpretation) : Prop :=
  ∀ t, v.supersedesId = some t → ∃ w, Admitted lib s w ∧ w.interpretationId = t ∧ w.objectId = v.objectId

/-- A call that raises has written nothing. -/
def Settles {α : Type} (A : List (Move Empty (Store J D)) → Store J D → Prop) :
    Except StoreError α → List (Move Empty (Store J D)) → Store J D → Prop
  | .ok _ => A
  | .error _ => fun h _ => Quiet h

section
omit [DecidableEq D]
variable {s s' : Store J D} {v w : ContextualInterpretation} {r : InterpretationRelation} {id : String}
  {held : Finset Empty} {α : Type} {A P : List (Move Empty (Store J D)) → Store J D → Prop}

theorem stable_of (hP : ∀ h s s', Grows s s' → P h s → P h s') : (storeContract lib).Stable held P :=
  fun h s s' _ _ hs hg => hP h s s' hg hs

theorem Quiet.act {h : List (Move Empty (Store J D))} (hq : Quiet h) (s : Store J D) : Quiet (⟨.act, s, s⟩ :: h) := by
  intro m hm
  rcases List.mem_cons.1 hm with rfl | hm
  · rfl
  · exact hq m hm

theorem quiet_stable : (storeContract lib).Stable held fun h (_ : Store J D) => Quiet h := .hist Quiet

theorem Settles.stable (hA : (storeContract lib).Stable held A) :
    ∀ r : Except StoreError α, (storeContract lib).Stable held (Settles A r)
  | .ok _ => hA
  | .error _ => quiet_stable

theorem Known.grows (h : Known lib s id) (hg : Grows s s') : Known lib s' id :=
  h.imp fun _ hv => ⟨hg.admitted hv.1, hv.2⟩

theorem TargetAdmitted.grows (h : TargetAdmitted lib s v) (hg : Grows s s') : TargetAdmitted lib s' v :=
  fun t ht => (h t ht).imp fun _ hw => ⟨hg.admitted hw.1, hw.2⟩

theorem settles_throw (hP : ∀ h s, P h s → Quiet h) (e : StoreError) :
    Triple (storeContract lib) held P (throw e : Reading J D α) (Settles A) :=
  .throw quiet_stable fun h s _ hs => hP h s hs

theorem Settles.bind {β : Type} {B : List (Move Empty (Store J D)) → Store J D → Prop} {p : Reading J D α}
    {f : α → Reading J D β} (hp : Triple (storeContract lib) held P p (Settles A))
    (hf : ∀ a, Triple (storeContract lib) held A (f a) (Settles B)) :
    Triple (storeContract lib) held P (p >>= f) (Settles B) :=
  .bind hp hf fun _ _ _ _ h => h

/-- What a `SELECT` by id finds. -/
def Found (lib : Library J D) (s : Store J D) (id : String) (row : Option (InterpretationRow J D)) : Prop :=
  ∀ found, row = some found → ∃ v, found = interpretationRow lib v ∧ Admitted lib s v ∧ v.interpretationId = id

theorem Found.grows {row : Option (InterpretationRow J D)} (h : Found lib s id row) (hg : Grows s s') :
    Found lib s' id row :=
  fun found hf => (h found hf).imp fun _ hv => ⟨hv.1, hg.admitted hv.2.1, hv.2.2⟩

/-- An interpretation is looked up before the rest of a call that has written nothing. -/
theorem lookup_triple {β : Type} {f : Store J D → α} {k : α → Reading J D β} {F : α → Store J D → Prop}
    (hP : ∀ h s s', Grows s s' → P h s → P h s') (hact : ∀ h s, P h s → P (⟨.act, s, s⟩ :: h) s)
    (hF : ∀ a s s', Grows s s' → F a s → F a s') (hf : ∀ s, Inv lib s → F (f s) s)
    {R : Except StoreError β → List (Move Empty (Store J D)) → Store J D → Prop}
    (hk : ∀ a, Triple (storeContract lib) held (fun h s => P h s ∧ F a s) (k a) R) :
    Triple (storeContract lib) held P (Prog.read f >>= k) R :=
  .thenGives (A := fun a h s => P h s ∧ F a s)
    (.read (stable_of hP) (fun a => stable_of fun h s s' hg hs => ⟨hP h s s' hg hs.1, hF a s s' hg hs.2⟩)
      fun h s hi hs => ⟨Grows.refl s, hact h s hs, hf s hi⟩) hk

/-! ### What an insertion keeps -/

theorem Inv.insertInterpretation (h : Inv lib s) (hnew : s.interpretations.get? v.interpretationId = none)
    (ht : TargetAdmitted lib s v) (hinj : Function.Injective (interpretationRow lib)) :
    let s' := { s with interpretations := s.interpretations.insert (interpretationRow lib v) }
    Inv lib s' ∧ Grows s s' ∧ Admitted lib s' v := by
  intro s'
  have hrows : s'.interpretations.rows = s.interpretations.rows ++ [interpretationRow lib v] := Table.rows_insert hnew
  have hg : Grows s s' := ⟨⟨_, hrows.symm⟩, List.prefix_refl _⟩
  refine ⟨⟨?_, fun row hrow => ?_⟩, hg, by simp [Admitted, hrows]⟩
  · obtain ⟨vs, hvs, hgrounded⟩ := h.grounded
    refine ⟨vs ++ [v], by rw [hrows, hvs, List.map_append, List.map_singleton], hgrounded.snoc fun t hs => ?_⟩
    obtain ⟨w, hw, hid⟩ := ht t hs
    rw [Admitted, hvs] at hw
    obtain ⟨w', hw', heq⟩ := List.mem_map.1 hw
    exact ⟨w, hinj heq ▸ hw', hid⟩
  · obtain ⟨r, hr, hleft, hright⟩ := h.related row hrow
    exact ⟨r, hr, Known.grows hleft hg, Known.grows hright hg⟩

theorem Inv.insertRelation (h : Inv lib s) (hnew : s.relations.get? r.relationId = none)
    (hleft : Known lib s r.leftId) (hright : Known lib s r.rightId) :
    let s' := { s with relations := s.relations.insert (relationRow lib r) }
    Inv lib s' ∧ Grows s s' ∧ Related lib s' r := by
  intro s'
  have hrows : s'.relations.rows = s.relations.rows ++ [relationRow lib r] := Table.rows_insert hnew
  have hg : Grows s s' := ⟨List.prefix_refl _, ⟨_, hrows.symm⟩⟩
  refine ⟨⟨h.grounded, fun row hrow => ?_⟩, hg, by simp [Related, hrows]⟩
  rcases List.mem_append.1 (hrows ▸ hrow) with hrow | hrow
  · exact h.related row hrow
  · exact ⟨r, List.mem_singleton.1 hrow, hleft, hright⟩

end

/-! ### The calls -/

section
variable {s : Store J D} {v : ContextualInterpretation} {r : InterpretationRelation} {held : Finset Empty}

theorem walkSupersession_readOnly (own : String) : ∀ (fuel : Nat) (seen : List String) (cursor : ContextualInterpretation),
    (walkSupersession lib own fuel seen cursor).ReadOnly := by
  intro fuel
  induction fuel with
  | zero =>
    intro seen cursor
    rw [walkSupersession.eq_def]
    dsimp only
    split
    · trivial
    · split_ifs <;> trivial
  | succ fuel ih =>
    intro seen cursor
    rw [walkSupersession.eq_def]
    dsimp only
    split
    · trivial
    · split_ifs
      · trivial
      · trivial
      · refine Prog.All.bind (Prog.ReadOnly.read _) fun row => ?_
        split
        · trivial
        · exact Prog.All.bind (Prog.All.ofExcept _) fun cursor' => ih _ cursor'

theorem validateSupersession_settles (hlib : lib.Faithful) :
    Triple (storeContract lib) held (fun h _ => Quiet h) (validateSupersession lib v)
      (Settles fun h s => Quiet h ∧ TargetAdmitted lib s v) := by
  have hmid : (storeContract lib).Stable held fun h s => Quiet h ∧ TargetAdmitted lib s v :=
    quiet_stable.and (stable_of fun _ _ _ hg ht => ht.grows hg)
  rw [validateSupersession]
  split
  case h_1 hnone => exact .pure hmid fun h s _ hs => ⟨hs, fun t ht => by rw [hnone] at ht; cases ht⟩
  case h_2 t hsome =>
    split_ifs
    · exact settles_throw (fun _ _ h => h) _
    · refine lookup_triple (F := fun a s => Found lib s t a.1) (fun _ _ _ _ h => h) (fun _ s h => h.act s)
        (fun a _ _ hg (h : Found lib _ t a.1) => h.grows hg) (fun s hi row hrow => hi.found hrow) fun found => ?_
      split
      · exact settles_throw (fun _ _ h => h.1) _
      case h_2 row hrow =>
        intro h s hi hs
        obtain ⟨target, rfl, hadmitted, hid⟩ := hs.2 row hrow
        rw [decode_interpretationRow hlib]
        change Safe _ _ (if target.objectId ≠ v.objectId then throw _ else _) _ _ _
        split_ifs with hobject
        · exact settles_throw (P := fun h _ => Quiet h) (fun _ _ h => h) _ h s hi hs.1
        · have htarget : TargetAdmitted lib s v := fun t' ht' => by
            obtain rfl := Option.some.inj (hsome.symm.trans ht')
            exact ⟨target, hadmitted, hid, not_not.1 hobject⟩
          refine ((Triple.readOnly hmid (walkSupersession_readOnly _ _ _ _) fun h s _ hs => ?_).conseq
            (fun _ _ _ h => h) fun r h s _ hs => ?_) h s hi ⟨hs.1, htarget⟩
          · exact ⟨Grows.refl s, hs.1.act s, hs.2⟩
          · cases r with
            | ok => exact hs
            | error => exact hs.1

theorem admitInterpretation_settles (hlib : lib.Faithful) :
    Triple (storeContract lib) held (fun h _ => Quiet h) (admitInterpretation lib v)
      (Settles fun _ s => Admitted lib s v) := by
  have hend : (storeContract lib).Stable held fun _ s => Admitted lib s v := stable_of fun _ _ _ hg h => hg.admitted h
  refine lookup_triple (F := fun a s => Found lib s v.interpretationId a) (fun _ _ _ _ h => h) (fun _ s h => h.act s)
    (fun _ _ _ hg h => h.grows hg) (fun s hi row hrow => hi.found hrow) fun found => ?_
  split
  case h_1 row =>
    intro h s hi hs
    obtain ⟨w, rfl, hadmitted, -⟩ := hs.2 row rfl
    rw [decode_interpretationRow hlib]
    change Safe _ _ (if _ ∨ w ≠ v then throw _ else _) _ _ _
    split_ifs with hother
    · exact settles_throw (P := fun h _ => Quiet h) (fun _ _ h => h) _ h s hi hs.1
    · obtain rfl : w = v := not_not.1 fun hne => hother (.inr hne)
      exact Triple.pure (P := fun _ s => Admitted lib s w) hend (fun _ _ _ h => h) h s hi hadmitted
  case h_2 =>
    refine Settles.bind (A := fun h s => Quiet h ∧ TargetAdmitted lib s v)
      ((validateSupersession_settles hlib).conseq (fun _ _ _ h => h.1) fun _ _ _ _ h => h) fun _ => ?_
    refine .txn (quiet_stable.and (stable_of fun _ _ _ hg ht => ht.grows hg)) (Settles.stable hend)
      (fun h s a s' hi hs ht => ?_) fun h s e hi hs ht => ⟨Grows.refl s, hs.1.act s⟩
    split at ht
    · cases ht
    case h_2 hnew =>
      cases ht
      exact hi.insertInterpretation hnew hs.2 (interpretationRow_injective hlib)

theorem requireEndpoint_settles (hlib : lib.Faithful) {A : Store J D → Prop}
    (hA : ∀ s s', Grows s s' → A s → A s') (e : StoreError) (endpoint : String) :
    Triple (storeContract lib) held (fun h s => Quiet h ∧ A s) (requireEndpoint lib e endpoint)
      (Settles fun h s => Quiet h ∧ A s ∧ Known lib s endpoint) := by
  refine lookup_triple (F := fun a s => Found lib s endpoint a) (fun _ s s' hg h => ⟨h.1, hA s s' hg h.2⟩)
    (fun _ s h => ⟨h.1.act s, h.2⟩) (fun _ _ _ hg h => h.grows hg) (fun s hi row hrow => hi.found hrow) fun found => ?_
  split
  · exact settles_throw (fun _ _ h => h.1.1) _
  case h_2 row =>
    intro h s hi hs
    obtain ⟨w, rfl, hadmitted, hid⟩ := hs.2 row rfl
    rw [decode_interpretationRow hlib]
    refine Triple.pure (P := fun h s => Quiet h ∧ A s ∧ Known lib s endpoint) ?_ (fun _ _ _ h => h) h s hi
      ⟨hs.1.1, hs.1.2, w, hadmitted, hid⟩
    exact quiet_stable.and (stable_of fun _ s s' hg h => ⟨hA s s' hg h.1, h.2.grows hg⟩)

theorem admitRelation_settles (hlib : lib.Faithful) :
    Triple (storeContract lib) held (fun h _ => Quiet h) (admitRelation lib r)
      (Settles fun _ s => Related lib s r) := by
  have hend : (storeContract lib).Stable held fun _ s => Related lib s r := stable_of fun _ _ _ hg h => hg.related h
  refine lookup_triple (f := fun s => s.relations.get? r.relationId)
    (F := fun a s => ∀ row, a = some row → ∃ q, row = relationRow lib q ∧ Related lib s q)
    (fun _ _ _ _ h => h) (fun _ s h => h.act s)
    (fun _ _ _ hg h row hrow => (h row hrow).imp fun _ hq => ⟨hq.1, hg.related hq.2⟩)
    (fun s hi row hrow => (hi.foundRelation hrow).imp fun _ hq => ⟨hq.1, hq.2.1⟩) fun found => ?_
  split
  case h_1 row =>
    intro h s hi hs
    obtain ⟨q, rfl, hrelated⟩ := hs.2 row rfl
    rw [decode_relationRow hlib]
    change Safe _ _ (if _ ∨ q ≠ r then throw _ else _) _ _ _
    split_ifs with hother
    · exact settles_throw (P := fun h _ => Quiet h) (fun _ _ h => h) _ h s hi hs.1
    · obtain rfl : q = r := not_not.1 fun hne => hother (.inr hne)
      exact Triple.pure (P := fun _ s => Related lib s q) hend (fun _ _ _ h => h) h s hi hrelated
  case h_2 =>
    refine Settles.bind (A := fun h s => Quiet h ∧ True ∧ Known lib s r.leftId)
      ((requireEndpoint_settles hlib (fun _ _ _ h => h) _ _).conseq (fun _ _ _ h => ⟨h.1, trivial⟩) fun _ _ _ _ h => h)
      fun _ => ?_
    refine Settles.bind (requireEndpoint_settles hlib (fun _ _ hg h => ⟨h.1, h.2.grows hg⟩) _ _) fun _ => ?_
    refine .txn (quiet_stable.and (stable_of fun _ _ _ hg h => ⟨⟨trivial, h.1.2.grows hg⟩, h.2.grows hg⟩))
      (Settles.stable hend) (fun h s a s' hi hs ht => ?_) fun h s e hi hs ht => ⟨Grows.refl s, hs.1.act s⟩
    split at ht
    · cases ht
    case h_2 hnew =>
      cases ht
      exact hi.insertRelation hnew hs.2.1.2 hs.2.2

end

/-! ## What a reader finds -/

/-- A store that a call read. -/
def Seen (h : List (Move Empty (Store J D))) (s : Store J D) : Prop := ∃ m ∈ h, m.before = s

/-- The values of one object, in the order of their ids, and good enough for every check. -/
structure Listed (lib : Library J D) (s : Store J D) (objectId : String) (values : List ContextualInterpretation) :
    Prop where
  mem : ∀ v, v ∈ values ↔ Admitted lib s v ∧ v.objectId = objectId
  sorted : values.Pairwise fun v w => v.interpretationId < w.interpretationId
  walks : ∀ v ∈ values, walkValues values values.length [] v = .ok ()

/-- The relations that join an interpretation to another, in the order of their ids. -/
structure Touching (lib : Library J D) (s : Store J D) (id : String) (relations : List InterpretationRelation) :
    Prop where
  mem : ∀ r, r ∈ relations ↔ Related lib s r ∧ r.touches id
  sorted : relations.Pairwise fun r q => r.relationId < q.relationId

/-- Another admitted interpretation supersedes it. -/
def Superseded (lib : Library J D) (s : Store J D) (v : ContextualInterpretation) : Prop :=
  ∃ w, Admitted lib s w ∧ w ≠ v ∧ w.supersedesId = some v.interpretationId

section
variable {s s' : Store J D} {v w : ContextualInterpretation} {r : InterpretationRelation} {id objectId : String}

theorem mapM_decode_interpretations (hlib : lib.Faithful) (vs : List ContextualInterpretation) :
    (vs.map (interpretationRow lib)).mapM (decodeInterpretationRow lib) = .ok vs := by
  induction vs with
  | nil => rfl
  | cons v vs ih =>
    rw [List.map_cons, List.mapM_cons, decode_interpretationRow hlib, ih]
    rfl

theorem mapM_decode_relations (hlib : lib.Faithful) (rs : List InterpretationRelation) :
    (rs.map (relationRow lib)).mapM (decodeRelationRow lib) = .ok rs := by
  induction rs with
  | nil => rfl
  | cons r rs ih =>
    rw [List.map_cons, List.mapM_cons, decode_relationRow hlib, ih]
    rfl

theorem pairwise_lt_mergeSort {α : Type} (key : α → String) {l : List α} (hn : (l.map key).Nodup) :
    (l.mergeSort fun a b => key a ≤ key b).Pairwise fun a b => key a < key b := by
  have hle : (l.mergeSort fun a b => key a ≤ key b).Pairwise fun a b => key a ≤ key b := by
    refine (List.pairwise_mergeSort (fun a b c hab hbc => ?_) (fun a b => ?_) l).imp fun h => by simpa using h
    · simp only [decide_eq_true_eq] at hab hbc ⊢
      exact hab.trans hbc
    · simpa using le_total (key a) (key b)
  have hne : (l.mergeSort fun a b => key a ≤ key b).Pairwise fun a b => key a ≠ key b :=
    List.pairwise_map.1 (((List.mergeSort_perm l _).map key).nodup_iff.2 hn)
  exact (hle.and hne).imp fun h => lt_of_le_of_ne h.1 h.2

theorem find?_of_sorted {values : List ContextualInterpretation}
    (hs : values.Pairwise fun v w => v.interpretationId < w.interpretationId) (hw : w ∈ values) :
    (values.find? fun x => x.interpretationId = w.interpretationId) = some w := by
  induction hs with
  | nil => cases hw
  | @cons u values hu _ ih =>
    rcases List.mem_cons.1 hw with rfl | hw
    · simp
    · rw [List.find?_cons_of_neg (by simpa using (hu w hw).ne)]
      exact ih hw

theorem Inv.listed (hlib : lib.Faithful) (h : Inv lib s) (objectId : String) : ∃ values,
    ((s.interpretations.rows.filter fun row => row.objectId = objectId).mergeSort
      fun a b => a.interpretationId ≤ b.interpretationId) = values.map (interpretationRow lib) ∧
      Listed lib s objectId values := by
  obtain ⟨vs, hrows, hgrounded⟩ := h.grounded
  have hnodup : (vs.map (·.interpretationId)).Nodup := by
    have hn := s.interpretations.nodup
    rwa [hrows, List.map_map] at hn
  have hfiltered : ((vs.filter fun v => v.objectId = objectId).map (·.interpretationId)).Nodup :=
    hnodup.sublist (List.filter_sublist.map _)
  have hsorted := pairwise_lt_mergeSort ContextualInterpretation.interpretationId hfiltered
  have hperm := List.mergeSort_perm (vs.filter fun v => v.objectId = objectId)
    fun a b => a.interpretationId ≤ b.interpretationId
  refine ⟨(vs.filter fun v => v.objectId = objectId).mergeSort fun a b => a.interpretationId ≤ b.interpretationId,
    ?_, fun v => ?_, hsorted, fun v hv => ?_⟩
  · rw [hrows, List.filter_map]
    refine (List.map_mergeSort ?_).symm
    exact fun _ _ _ _ => rfl
  · rw [hperm.mem_iff, List.mem_filter, decide_eq_true_eq, Admitted, hrows,
      List.mem_map_of_injective (interpretationRow_injective hlib)]
  · refine walkValues_ok (hgrounded.object objectId) hfiltered (fun w hw => find?_of_sorted hsorted (hperm.mem_iff.2 hw))
      (hperm.mem_iff.1 hv) hperm.length_eq.ge fun _ _ => List.not_mem_nil

theorem Inv.touching (hlib : lib.Faithful) (h : Inv lib s) (id : String) : ∃ relations,
    ((s.relations.rows.filter fun row => row.leftId = id ∨ row.rightId = id).mergeSort
      fun a b => a.relationId ≤ b.relationId) = relations.map (relationRow lib) ∧ Touching lib s id relations := by
  obtain ⟨rs, hrows⟩ : ∃ rs : List InterpretationRelation, s.relations.rows = rs.map (relationRow lib) := by
    have hall := fun row hrow => (h.related row hrow).imp fun r hr => hr.1
    generalize s.relations.rows = rows at hall
    induction rows with
    | nil => exact ⟨[], rfl⟩
    | cons row rows ih =>
      obtain ⟨r, rfl⟩ := hall row List.mem_cons_self
      obtain ⟨rs, rfl⟩ := ih fun q hq => hall q (List.mem_cons_of_mem _ hq)
      exact ⟨r :: rs, rfl⟩
  have hnodup : (rs.map (·.relationId)).Nodup := by
    have hn := s.relations.nodup
    rwa [hrows, List.map_map] at hn
  have hfiltered : ((rs.filter fun r => r.leftId = id ∨ r.rightId = id).map (·.relationId)).Nodup :=
    hnodup.sublist (List.filter_sublist.map _)
  have hperm := List.mergeSort_perm (rs.filter fun r => r.leftId = id ∨ r.rightId = id)
    fun a b => a.relationId ≤ b.relationId
  refine ⟨(rs.filter fun r => r.leftId = id ∨ r.rightId = id).mergeSort fun a b => a.relationId ≤ b.relationId,
    ?_, fun r => ?_, pairwise_lt_mergeSort InterpretationRelation.relationId hfiltered⟩
  · rw [hrows, List.filter_map]
    refine (List.map_mergeSort ?_).symm
    exact fun _ _ _ _ => rfl
  · rw [hperm.mem_iff, List.mem_filter, decide_eq_true_eq, Related, hrows,
      List.mem_map_of_injective (relationRow_injective hlib), InterpretationRelation.touches]

theorem Inv.target (hlib : lib.Faithful) (h : Inv lib s) (hv : Admitted lib s v) : TargetAdmitted lib s v := by
  obtain ⟨vs, hrows, hgrounded⟩ := h.grounded
  rw [Admitted, hrows, List.mem_map_of_injective (interpretationRow_injective hlib)] at hv
  intro t ht
  obtain ⟨w, hw, hid⟩ := hgrounded.target hv t ht
  exact ⟨w, by rw [Admitted, hrows]; exact List.mem_map_of_mem hw, hid⟩

theorem Inv.supersedes_lt (hlib : lib.Faithful) (h : Inv lib s) : ∃ rank : ContextualInterpretation → Nat,
    ∀ v w, Admitted lib s v → Admitted lib s w → v.supersedesId = some w.interpretationId → rank w < rank v := by
  obtain ⟨vs, hrows, hgrounded⟩ := h.grounded
  have hnodup : (vs.map (·.interpretationId)).Nodup := by
    have hn := s.interpretations.nodup
    rwa [hrows, List.map_map] at hn
  refine ⟨fun v => vs.idxOf v, fun v w hv hw hs => ?_⟩
  rw [Admitted, hrows, List.mem_map_of_injective (interpretationRow_injective hlib)] at hv hw
  exact hgrounded.idxOf_lt hnodup hv hw hs

/-- The values of one object know of everything that supersedes one of them. -/
theorem Listed.superseded (hlib : lib.Faithful) (hi : Inv lib s) {values : List ContextualInterpretation}
    (h : Listed lib s objectId values) (hv : v ∈ values) :
    v.interpretationId ∈ supersededIds values ↔ Superseded lib s v := by
  obtain ⟨hadmitted, hobject⟩ := (h.mem v).1 hv
  rw [supersededIds, List.mem_filterMap]
  constructor
  · rintro ⟨w, hw, hs⟩
    obtain ⟨hw', -⟩ := (h.mem w).1 hw
    obtain ⟨rank, hrank⟩ := hi.supersedes_lt hlib
    refine ⟨w, hw', ?_, hs⟩
    rintro rfl
    exact (hrank w w hw' hw' hs).false
  · rintro ⟨w, hw, -, hs⟩
    obtain ⟨u, hu, hid, hsame⟩ := hi.target hlib hw _ hs
    obtain rfl := hu.unique (interpretationRow_injective hlib) hadmitted hid
    exact ⟨w, (h.mem w).2 ⟨hw, hsame.symm.trans hobject⟩, hs⟩

end

/-! ## Readers -/

/-- One result comes before another: it is more specific, or as specific with a smaller id. -/
def Precedes (a b : ContextualInterpretationResult) : Prop :=
  b.interpretation.specificity < a.interpretation.specificity ∨
    b.interpretation.specificity = a.interpretation.specificity ∧
      a.interpretation.interpretationId < b.interpretation.interpretationId

/-- The answer to a query, where the interpretations are those of one store that was read and the
relations of each are those of a store that was read. -/
structure Answered (lib : Library J D) (reads : Store J D → Prop) (objectId : String) (context : Finset String)
    (includeSuperseded : Bool) (s : Store J D) (results : List ContextualInterpretationResult) : Prop where
  seen : reads s
  mem : ∀ v, (∃ res ∈ results, res.interpretation = v) ↔ Admitted lib s v ∧ v.objectId = objectId ∧
    v.requiredContext ⊆ context ∧ v.excludedContext ∩ context = ∅ ∧ (includeSuperseded = true ∨ ¬ Superseded lib s v)
  current : ∀ res ∈ results, res.isCurrent = true ↔ ¬ Superseded lib s res.interpretation
  relations : ∀ res ∈ results, ∃ s', reads s' ∧ Touching lib s' res.interpretation.interpretationId res.relations
  sorted : results.Pairwise Precedes

section
variable {s s' : Store J D} {v w : ContextualInterpretation} {id objectId : String} {held : Finset Empty} {α : Type}
  {P : List (Move Empty (Store J D)) → Store J D → Prop}
  {R : Except StoreError α → List (Move Empty (Store J D)) → Store J D → Prop}

variable {values : List ContextualInterpretation} {h : List (Move Empty (Store J D))}

omit [DecidableEq D] in
theorem Seen.act (hs : Seen h s) (m : Move Empty (Store J D)) : Seen (m :: h) s :=
  hs.imp fun _ hm => ⟨List.mem_cons_of_mem _ hm.1, hm.2⟩

omit [DecidableEq D] in
theorem Seen.self (h : List (Move Empty (Store J D))) (s : Store J D) : Seen (⟨.act, s, s⟩ :: h) s :=
  ⟨_, List.mem_cons_self, rfl⟩

omit [DecidableEq D] in
theorem select_triple {k : Option (InterpretationRow J D) → Reading J D α} (B : ContextualInterpretation → Prop)
    (hP : ∀ h s s', Grows s s' → P h s → P h s') (hact : ∀ h s, P h s → P (⟨.act, s, s⟩ :: h) s)
    (hknown : ∀ h s, Inv lib s → P h s → ∃ w, Admitted lib s w ∧ w.interpretationId = id ∧ B w)
    (hk : ∀ w, B w → Triple (storeContract lib) held P (k (some (interpretationRow lib w))) R) :
    Triple (storeContract lib) held P (selectInterpretation id >>= k) R := by
  refine .thenGives (A := fun a h s => P h s ∧ ∃ w, a = some (interpretationRow lib w) ∧ B w)
    (.read (stable_of hP) (fun a => stable_of fun h s s' hg hs => ⟨hP h s s' hg hs.1, hs.2⟩) fun h s hi hs => ?_)
    fun a h s hi hs => ?_
  · obtain ⟨w, hw, rfl, hB⟩ := hknown h s hi hs
    exact ⟨Grows.refl s, hact h s hs, w, hw.get?, hB⟩
  · obtain ⟨hs, w, rfl, hB⟩ := hs
    exact hk w hB h s hi hs

theorem validateTarget_gives (hlib : lib.Faithful) (hP : ∀ h s s', Grows s s' → P h s → P h s')
    (hact : ∀ h s, P h s → P (⟨.act, s, s⟩ :: h) s)
    (htarget : ∀ h s, Inv lib s → P h s → TargetAdmitted lib s v) :
    Triple (storeContract lib) held P (validateTarget lib v) (Gives fun _ => P) := by
  rw [validateTarget]
  split
  · exact .givesPure (stable_of hP) fun _ _ _ h => h
  case h_2 t ht =>
    refine select_triple (fun w => w.objectId = v.objectId) hP hact (fun h s hi hs => htarget h s hi hs t ht)
      fun w hw => ?_
    dsimp only
    rw [decode_interpretationRow hlib]
    change Triple _ _ _ (if w.objectId ≠ v.objectId then throw _ else pure ()) _
    rw [if_neg (not_not.2 hw)]
    exact .givesPure (stable_of hP) fun _ _ _ h => h

theorem requireEndpoint_gives (hlib : lib.Faithful) (e : StoreError) (hP : ∀ h s s', Grows s s' → P h s → P h s')
    (hact : ∀ h s, P h s → P (⟨.act, s, s⟩ :: h) s) (hknown : ∀ h s, P h s → Known lib s id) :
    Triple (storeContract lib) held P (requireEndpoint lib e id) (Gives fun _ => P) := by
  refine select_triple (fun _ => True) hP hact
    (fun h s hi hs => (hknown h s hs).imp fun w hw => ⟨hw.1, hw.2, trivial⟩) fun w _ => ?_
  dsimp only
  rw [decode_interpretationRow hlib]
  exact .givesPure (stable_of hP) fun _ _ _ h => h

def ReadValues (lib : Library J D) (objectId : String) (values : List ContextualInterpretation)
    (h : List (Move Empty (Store J D))) (s : Store J D) : Prop :=
  ∃ s₀, Seen h s₀ ∧ Inv lib s₀ ∧ Grows s₀ s ∧ Listed lib s₀ objectId values

omit [DecidableEq D] in
theorem ReadValues.grows (h : List (Move Empty (Store J D)))
    (s s' : Store J D) (hg : Grows s s') (hs : ReadValues lib objectId values h s) :
    ReadValues lib objectId values h s' :=
  hs.imp fun _ hr => ⟨hr.1, hr.2.1, hr.2.2.1.trans hg, hr.2.2.2⟩

omit [DecidableEq D] in
theorem ReadValues.act (h : List (Move Empty (Store J D)))
    (s : Store J D) (hs : ReadValues lib objectId values h s) :
    ReadValues lib objectId values (⟨.act, s, s⟩ :: h) s :=
  hs.imp fun _ hr => ⟨hr.1.act _, hr.2⟩

theorem allInterpretations_gives (hlib : lib.Faithful) (objectId : String) :
    Triple (storeContract lib) held (fun _ _ => True) (allInterpretations lib objectId)
      (Gives (ReadValues lib objectId)) := by
  refine .thenGives (A := fun rows h s => ∃ values, rows = values.map (interpretationRow lib) ∧
    ReadValues lib objectId values h s) (.read (.hist fun _ => True) (fun rows => ?_) fun h s hi _ => ?_)
    fun rows h s hi hs => ?_
  · exact stable_of fun h s s' hg hs => hs.imp fun _ hv => ⟨hv.1, hv.2.grows h s s' hg⟩
  · obtain ⟨values, hrows, hlisted⟩ := hi.listed hlib objectId
    exact ⟨Grows.refl s, values, hrows, s, .self h s, hi, Grows.refl s, hlisted⟩
  · obtain ⟨values, rfl, hread⟩ := hs
    rw [mapM_decode_interpretations hlib]
    have hwalks : values.forM (walkValues values values.length []) = .ok () := by
      obtain ⟨_, -, -, -, hlisted⟩ := hread
      exact forM_ok.2 hlisted.walks
    refine Triple.thenGives (A := fun _ => ReadValues lib objectId values) (.thenGives
      (.givesForM (stable_of ReadValues.grows) fun v hv => ?_) fun _ => ?_) (fun _ => ?_) h s hi hread
    · refine validateTarget_gives hlib ReadValues.grows ReadValues.act fun h s _ hs => ?_
      obtain ⟨s₀, -, hi₀, hg, hlisted⟩ := hs
      exact (hi₀.target hlib ((hlisted.mem v).1 hv).1).grows hg
    · rw [hwalks]
      exact .givesPure (stable_of ReadValues.grows) fun _ _ _ h => h
    · exact .givesPure (stable_of ReadValues.grows) fun _ _ _ h => h

theorem validateEndpoints_gives (hlib : lib.Faithful) (hP : ∀ h s s', Grows s s' → P h s → P h s')
    (hact : ∀ h s, P h s → P (⟨.act, s, s⟩ :: h) s) {r : InterpretationRelation}
    (hends : ∀ h s, P h s → Known lib s r.leftId ∧ Known lib s r.rightId) :
    Triple (storeContract lib) held P (validatePersistedRelationEndpoints lib r) (Gives fun _ => P) :=
  .thenGives (requireEndpoint_gives hlib _ hP hact fun h s hs => (hends h s hs).1) fun _ =>
    requireEndpoint_gives hlib _ hP hact fun h s hs => (hends h s hs).2

def ReadRelations (lib : Library J D) (id : String) (relations : List InterpretationRelation)
    (h : List (Move Empty (Store J D))) : Prop :=
  ∃ s', Seen h s' ∧ Touching lib s' id relations

omit [DecidableEq D] in
theorem ReadRelations.act {relations : List InterpretationRelation}
    (hr : ReadRelations lib id relations h) (m : Move Empty (Store J D)) : ReadRelations lib id relations (m :: h) :=
  hr.imp fun _ hs => ⟨hs.1.act m, hs.2⟩

/-- What the relations join is there. -/
def EndsKnown (lib : Library J D) (relations : List InterpretationRelation) (s : Store J D) : Prop :=
  ∀ r ∈ relations, Known lib s r.leftId ∧ Known lib s r.rightId

omit [DecidableEq D] in
theorem EndsKnown.grows {relations : List InterpretationRelation} (h : EndsKnown lib relations s) (hg : Grows s s') :
    EndsKnown lib relations s' :=
  fun r hr => (h r hr).imp (·.grows hg) (·.grows hg)

theorem relationsFor_gives (hlib : lib.Faithful) (hP : ∀ h s s', Grows s s' → P h s → P h s')
    (hact : ∀ h s, P h s → P (⟨.act, s, s⟩ :: h) s) (id : String) :
    Triple (storeContract lib) held P (relationsFor lib id)
      (Gives fun relations h s => P h s ∧ ReadRelations lib id relations h) := by
  refine .thenGives (A := fun rows h s => ∃ relations, rows = relations.map (relationRow lib) ∧ P h s ∧
    ReadRelations lib id relations h ∧ EndsKnown lib relations s)
    (.read (stable_of hP) (fun rows => ?_) fun h s hi hs => ?_) fun rows h s hi hs => ?_
  · exact stable_of fun h s s' hg hs => hs.imp fun _ hr => ⟨hr.1, hP h s s' hg hr.2.1, hr.2.2.1, hr.2.2.2.grows hg⟩
  · obtain ⟨relations, hrows, htouching⟩ := hi.touching hlib id
    exact ⟨Grows.refl s, relations, hrows, hact h s hs, ⟨s, .self h s, htouching⟩, fun r hr =>
      hi.endpoints (relationRow_injective hlib) ((htouching.mem r).1 hr).1⟩
  · obtain ⟨relations, rfl, hs, hread, hknown⟩ := hs
    rw [mapM_decode_relations hlib]
    have hgrows (h : List (Move Empty (Store J D))) (s s' : Store J D) (hg : Grows s s')
        (hs : P h s ∧ ReadRelations lib id relations h ∧ EndsKnown lib relations s) :
        P h s' ∧ ReadRelations lib id relations h ∧ EndsKnown lib relations s' :=
      ⟨hP h s s' hg hs.1, hs.2.1, hs.2.2.grows hg⟩
    refine Triple.thenGives (.givesForM (stable_of hgrows) fun r hr => ?_) (fun _ => ?_) h s hi ⟨hs, hread, hknown⟩
    · exact validateEndpoints_gives hlib hgrows (fun h s hs => ⟨hact h s hs.1, hs.2.1.act _, hs.2.2⟩)
        fun _ _ hs => hs.2.2 r hr
    · exact .givesPure (stable_of fun h s s' hg hs => ⟨hP h s s' hg hs.1, hs.2⟩) fun _ _ _ hs => ⟨hs.1, hs.2.1⟩

/-- A result with its relations, as they were read. -/
def RightResult (lib : Library J D) (superseded : List String) (h : List (Move Empty (Store J D)))
    (res : ContextualInterpretationResult) : Prop :=
  (res.isCurrent = true ↔ res.interpretation.interpretationId ∉ superseded) ∧
    ReadRelations lib res.interpretation.interpretationId res.relations h

theorem collectResults_gives (hlib : lib.Faithful) (superseded : List String) (vs : List ContextualInterpretation)
    (hP : ∀ h s s', Grows s s' → P h s → P h s') (hact : ∀ h s, P h s → P (⟨.act, s, s⟩ :: h) s) :
    Triple (storeContract lib) held P (collectResults lib superseded vs)
      (Gives fun results h s => P h s ∧ results.map (·.interpretation) = vs ∧
        ∀ res ∈ results, RightResult lib superseded h res) := by
  induction vs generalizing P with
  | nil => exact .givesPure (stable_of fun h s s' hg hs => ⟨hP h s s' hg hs.1, hs.2⟩) fun _ _ _ hs => ⟨hs, rfl, by simp⟩
  | cons v vs ih =>
    refine .thenGives (relationsFor_gives hlib hP hact v.interpretationId) fun relations => ?_
    refine .thenGives (ih (fun h s s' hg hs => ⟨hP h s s' hg hs.1, hs.2⟩) fun h s hs =>
      ⟨hact h s hs.1, hs.2.act _⟩) fun results => ?_
    refine .givesPure (stable_of fun h s s' hg hs => ⟨hP h s s' hg hs.1, hs.2⟩) fun h s _ hs => ?_
    obtain ⟨⟨hs, hrelations⟩, rfl, hall⟩ := hs
    refine ⟨hs, rfl, fun res hres => ?_⟩
    rcases List.mem_cons.1 hres with rfl | hres
    · exact ⟨by simp, hrelations⟩
    · exact hall res hres

omit [DecidableEq D] in
theorem resultBefore_iff {a b : ContextualInterpretationResult} : resultBefore a b = true ↔
    b.interpretation.specificity < a.interpretation.specificity ∨
      b.interpretation.specificity = a.interpretation.specificity ∧
        a.interpretation.interpretationId ≤ b.interpretation.interpretationId := by
  rw [resultBefore, decide_eq_true_eq]

theorem mergeSort_precedes {results : List ContextualInterpretationResult}
    (hn : (results.map fun res => res.interpretation.interpretationId).Nodup) :
    (results.mergeSort resultBefore).Pairwise Precedes := by
  have hle : (results.mergeSort resultBefore).Pairwise fun a b => resultBefore a b = true := by
    refine List.pairwise_mergeSort (fun a b c hab hbc => ?_) (fun a b => ?_) results
    · rw [resultBefore_iff] at hab hbc ⊢
      rcases hab with hab | ⟨hab, hab'⟩ <;> rcases hbc with hbc | ⟨hbc, hbc'⟩
      · exact .inl (hbc.trans hab)
      · exact .inl (hbc ▸ hab)
      · exact .inl (hab ▸ hbc)
      · exact .inr ⟨hbc.trans hab, hab'.trans hbc'⟩
    · rw [Bool.or_eq_true, resultBefore_iff, resultBefore_iff]
      rcases lt_trichotomy a.interpretation.specificity b.interpretation.specificity with h | h | h
      · exact .inr (.inl h)
      · exact (le_total a.interpretation.interpretationId b.interpretation.interpretationId).imp
          (fun hid => .inr ⟨h.symm, hid⟩) fun hid => .inr ⟨h, hid⟩
      · exact .inl (.inl h)
  have hne : (results.mergeSort resultBefore).Pairwise
      fun a b => a.interpretation.interpretationId ≠ b.interpretation.interpretationId :=
    List.pairwise_map.1 (((List.mergeSort_perm results resultBefore).map _).nodup_iff.2 hn)
  refine (hle.and hne).imp fun h => ?_
  exact (resultBefore_iff.1 h.1).imp id fun hs => ⟨hs.1, lt_of_le_of_ne hs.2 h.2⟩

theorem Listed.answered (hlib : lib.Faithful) (hi : Inv lib s)
    (hl : Listed lib s objectId values) {context : Finset String} {includeSuperseded : Bool}
    {results : List ContextualInterpretationResult} (hseen : Seen h s)
    (hresults : results.map (·.interpretation) =
      values.filter (selects (supersededIds values) context includeSuperseded))
    (hright : ∀ res ∈ results, RightResult lib (supersededIds values) h res) :
    Answered lib (Seen h) objectId context includeSuperseded s (results.mergeSort resultBefore) := by
  have hperm := List.mergeSort_perm results resultBefore
  have hvalue (res : ContextualInterpretationResult) (hres : res ∈ results) : res.interpretation ∈ values := by
    have hmem : res.interpretation ∈ results.map (·.interpretation) := List.mem_map_of_mem hres
    exact (List.mem_filter.1 (hresults ▸ hmem)).1
  refine ⟨hseen, fun v => ?_, fun res hres => ?_, fun res hres => ?_, mergeSort_precedes ?_⟩
  · have hmem : (∃ res ∈ results.mergeSort resultBefore, res.interpretation = v) ↔
        v ∈ results.map (·.interpretation) := by
      simp only [hperm.mem_iff, List.mem_map]
    rw [hmem, hresults, List.mem_filter, hl.mem, selects, decide_eq_true_eq, and_assoc]
    constructor
    · rintro ⟨hv, hobject, hcurrent, hrequired, hexcluded⟩
      refine ⟨hv, hobject, hrequired, hexcluded, hcurrent.imp id fun hnot hs => hnot ?_⟩
      exact (hl.superseded hlib hi ((hl.mem v).2 ⟨hv, hobject⟩)).2 hs
    · rintro ⟨hv, hobject, hrequired, hexcluded, hcurrent⟩
      refine ⟨hv, hobject, hcurrent.imp id fun hnot hs => hnot ?_, hrequired, hexcluded⟩
      exact (hl.superseded hlib hi ((hl.mem v).2 ⟨hv, hobject⟩)).1 hs
  · rw [hperm.mem_iff] at hres
    rw [(hright res hres).1, hl.superseded hlib hi (hvalue res hres)]
  · exact (hright res (hperm.mem_iff.1 hres)).2
  · have hids : results.map (fun res => res.interpretation.interpretationId) =
        (results.map (·.interpretation)).map (·.interpretationId) := by
      rw [List.map_map]
      rfl
    rw [hids, hresults]
    refine List.Nodup.sublist (List.filter_sublist.map _) ?_
    exact List.pairwise_map.2 (hl.sorted.imp fun hlt => hlt.ne)

theorem query_gives (hlib : lib.Faithful) {context : Finset String} (includeSuperseded : Bool)
    (hobject : nonblank objectId) (hcontext : ∀ atom ∈ context, nonblank atom) :
    Triple (storeContract lib) held (fun _ _ => True) (query lib objectId context includeSuperseded)
      (Gives fun results h _ => ∃ s, Answered lib (Seen h) objectId context includeSuperseded s results) := by
  rw [query, requireExactNonempty, if_pos hobject, validateContextAtoms, if_pos hcontext, Prog.ofExcept_ok_bind,
    Prog.ofExcept_ok_bind]
  refine Triple.thenGives (allInterpretations_gives hlib objectId) fun values => ?_
  refine .thenGives (collectResults_gives hlib _ _ ReadValues.grows ReadValues.act) fun results => ?_
  refine .givesPure (stable_of fun _ _ _ _ hs => hs) fun h s _ hs => ?_
  obtain ⟨⟨s₀, hseen, hi, -, hlisted⟩, hresults, hright⟩ := hs
  exact ⟨s₀, hlisted.answered hlib hi hseen hresults hright⟩

theorem listInterpretations_gives (hlib : lib.Faithful) (includeSuperseded : Bool) (hobject : nonblank objectId) :
    Triple (storeContract lib) held (fun _ _ => True) (listInterpretations lib objectId includeSuperseded)
      (Gives fun vs h _ => ∃ s, Seen h s ∧ ∀ v, v ∈ vs ↔
        Admitted lib s v ∧ v.objectId = objectId ∧ (includeSuperseded = true ∨ ¬ Superseded lib s v)) := by
  rw [listInterpretations, requireExactNonempty, if_pos hobject, Prog.ofExcept_ok_bind]
  refine Triple.thenGives (allInterpretations_gives hlib objectId) fun values => ?_
  split_ifs with hall
  · refine .givesPure (stable_of fun _ _ _ _ hs => hs) fun h s _ hs => ?_
    obtain ⟨s₀, hseen, hi, -, hlisted⟩ := hs
    exact ⟨s₀, hseen, fun v => by simp [hlisted.mem, hall]⟩
  · refine .givesPure (stable_of fun _ _ _ _ hs => hs) fun h s _ hs => ?_
    obtain ⟨s₀, hseen, hi, -, hlisted⟩ := hs
    refine ⟨s₀, hseen, fun v => ?_⟩
    rw [List.mem_filter, decide_eq_true_eq, hlisted.mem, and_assoc]
    refine and_congr_right fun hv => and_congr_right fun hsame => ?_
    rw [hlisted.superseded hlib hi ((hlisted.mem v).2 ⟨hv, hsame⟩)]
    simp [hall]

theorem getInterpretation_finds (hlib : lib.Faithful) (hid : nonblank id) :
    Triple (storeContract lib) held (fun _ _ => True) (getInterpretation lib id) fun r h _ => ∃ s, Seen h s ∧
      ((∃ v, Admitted lib s v ∧ v.interpretationId = id ∧ r = .ok v) ∨ ¬ Known lib s id ∧ r = .error (.missing id)) := by
  rw [getInterpretation, requireExactNonempty, if_pos hid, Prog.ofExcept_ok_bind]
  refine .thenGives (A := fun a h _ => ∃ s, Seen h s ∧ ((∃ v, Admitted lib s v ∧ v.interpretationId = id ∧
    a = some (interpretationRow lib v)) ∨ ¬ Known lib s id ∧ a = none))
    (.read (.hist fun _ => True) (fun a => stable_of fun _ _ _ _ hs => hs) fun h s hi _ => ⟨Grows.refl s, s, .self h s, ?_⟩)
    fun a h s hi hs => ?_
  · cases hrow : s.interpretations.get? id with
    | none =>
      refine .inr ⟨fun ⟨v, hv, hv'⟩ => ?_, rfl⟩
      rw [← hv', hv.get?] at hrow
      cases hrow
    | some row =>
      obtain ⟨v, rfl, hv, hv'⟩ := hi.found hrow
      exact .inl ⟨v, hv, hv', rfl⟩
  · obtain ⟨s₀, hseen, ⟨v, hv, hv', rfl⟩ | ⟨hnot, rfl⟩⟩ := hs
    · dsimp only
      rw [decode_interpretationRow hlib]
      exact fun _ _ => ⟨rfl, s₀, hseen, .inl ⟨v, hv, hv', rfl⟩⟩
    · exact fun _ _ => ⟨rfl, s₀, hseen, .inr ⟨hnot, rfl⟩⟩

theorem getRelation_finds (hlib : lib.Faithful) (hid : nonblank id) :
    Triple (storeContract lib) held (fun _ _ => True) (getRelation lib id) fun r h _ => ∃ s, Seen h s ∧
      ((∃ q, Related lib s q ∧ q.relationId = id ∧ r = .ok q) ∨
        (¬ ∃ q, Related lib s q ∧ q.relationId = id) ∧ r = .error (.missing id)) := by
  rw [getRelation, requireExactNonempty, if_pos hid, Prog.ofExcept_ok_bind]
  refine .thenGives (A := fun a h s => ∃ s₀, Seen h s₀ ∧ ((∃ q, Related lib s₀ q ∧ q.relationId = id ∧
    a = some (relationRow lib q) ∧ Known lib s q.leftId ∧ Known lib s q.rightId) ∨
      (¬ ∃ q, Related lib s₀ q ∧ q.relationId = id) ∧ a = none))
    (.read (.hist fun _ => True) (fun a => stable_of fun _ _ _ hg hs => ?_)
      fun h s hi _ => ⟨Grows.refl s, s, .self h s, ?_⟩)
    fun a h s hi hs => ?_
  · exact hs.imp fun _ h => ⟨h.1, h.2.imp (fun ⟨q, hq, hid, ha, hl, hr⟩ => ⟨q, hq, hid, ha, hl.grows hg, hr.grows hg⟩)
      fun h => h⟩
  · cases hrow : s.relations.get? id with
    | none =>
      refine .inr ⟨fun ⟨q, hq, hq'⟩ => ?_, rfl⟩
      have hget := Table.get?_of_mem hq
      rw [show (relationRow lib q).relationId = id from hq', hrow] at hget
      cases hget
    | some row =>
      obtain ⟨q, rfl, hq, hq'⟩ := hi.foundRelation hrow
      obtain ⟨hleft, hright⟩ := hi.endpoints (relationRow_injective hlib) hq
      exact .inl ⟨q, hq, hq', rfl, hleft, hright⟩
  · obtain ⟨s₀, hseen, ⟨q, hq, hq', rfl, hends⟩ | ⟨hnot, rfl⟩⟩ := hs
    · dsimp only
      rw [decode_relationRow hlib, Prog.ofExcept_ok_bind]
      have hgrows (h : List (Move Empty (Store J D))) (s s' : Store J D) (hg : Grows s s')
          (hs : Seen h s₀ ∧ Known lib s q.leftId ∧ Known lib s q.rightId) :
          Seen h s₀ ∧ Known lib s' q.leftId ∧ Known lib s' q.rightId :=
        ⟨hs.1, hs.2.1.grows hg, hs.2.2.grows hg⟩
      refine Triple.thenGives (validateEndpoints_gives hlib hgrows (fun h s hs => ⟨hs.1.act _, hs.2⟩) fun _ _ hs => hs.2)
        (fun _ => ?_) h s hi ⟨hseen, hends⟩
      exact .pure (stable_of fun _ _ _ _ hs => hs) fun h s _ hs => ⟨s₀, hs.1, .inl ⟨q, hq, hq', rfl⟩⟩
    · exact fun _ _ => ⟨rfl, s₀, hseen, .inr ⟨hnot, rfl⟩⟩

end

/-! ## Runs -/

def StoreCall.isRead : StoreCall → Bool
  | .admitInterpretation _ | .admitRelation _ => false
  | _ => true

/-- What each call reaches, at any end of it. A reader whose arguments are accepted never raises, but for
the `KeyError` of an id that is not there. -/
def storePost (lib : Library J D) : StoreCall → Except StoreError (StoreAnswer D) →
    List (Move Empty (Store J D)) → Store J D → Prop
  | .admitInterpretation v, r, h, s => Settles (fun _ s => Admitted lib s v) r h s
  | .admitRelation q, r, h, s => Settles (fun _ s => Related lib s q) r h s
  | .getInterpretation id, r, h, _ => nonblank id → ∃ s, Seen h s ∧
    ((∃ v, Admitted lib s v ∧ v.interpretationId = id ∧ r = .ok (.interpretation v)) ∨
      ¬ Known lib s id ∧ r = .error (.missing id))
  | .getRelation id, r, h, _ => nonblank id → ∃ s, Seen h s ∧
    ((∃ q, Related lib s q ∧ q.relationId = id ∧ r = .ok (.relation q)) ∨
      (¬ ∃ q, Related lib s q ∧ q.relationId = id) ∧ r = .error (.missing id))
  | .listInterpretations objectId includeSuperseded, r, h, _ => nonblank objectId →
    ∃ vs, r = .ok (.interpretations vs) ∧ ∃ s, Seen h s ∧ ∀ v, v ∈ vs ↔
      Admitted lib s v ∧ v.objectId = objectId ∧ (includeSuperseded = true ∨ ¬ Superseded lib s v)
  | .query objectId context includeSuperseded, r, h, _ => nonblank objectId → (∀ atom ∈ context, nonblank atom) →
    ∃ results, r = .ok (.results results) ∧
      ∃ s, Answered lib (Seen h) objectId context includeSuperseded s results

section
variable {c : StoreCall} {s : Store J D}

theorem requireEndpoint_readOnly (e : StoreError) (id : String) : (requireEndpoint lib e id).ReadOnly := by
  refine Prog.All.bind (Prog.ReadOnly.read _) fun row => ?_
  split
  · trivial
  · exact Prog.All.bind (Prog.All.ofExcept _) fun _ => trivial

theorem validateEndpoints_readOnly (r : InterpretationRelation) :
    (validatePersistedRelationEndpoints lib r).ReadOnly :=
  Prog.All.bind (requireEndpoint_readOnly _ _) fun _ => requireEndpoint_readOnly _ _

theorem allInterpretations_readOnly (objectId : String) : (allInterpretations lib objectId).ReadOnly := by
  refine Prog.All.bind (Prog.ReadOnly.read _) fun rows => Prog.All.bind (Prog.All.ofExcept _) fun values => ?_
  refine Prog.All.bind (Prog.All.bind (Prog.ReadOnly.forM fun v => ?_) fun _ => Prog.All.ofExcept _) fun _ => trivial
  rw [validateTarget]
  split
  · trivial
  · refine Prog.All.bind (Prog.ReadOnly.read _) fun row => ?_
    split
    · trivial
    · refine Prog.All.bind (Prog.All.ofExcept _) fun target => ?_
      split_ifs <;> trivial

theorem collectResults_readOnly (superseded : List String) (vs : List ContextualInterpretation) :
    (collectResults lib superseded vs).ReadOnly := by
  induction vs with
  | nil => trivial
  | cons v vs ih =>
    refine Prog.All.bind (Prog.All.bind (Prog.ReadOnly.read _) fun rows => Prog.All.bind (Prog.All.ofExcept _)
      fun relations => Prog.All.bind (Prog.ReadOnly.forM validateEndpoints_readOnly) fun _ => trivial) fun relations => ?_
    exact Prog.All.bind ih fun results => trivial

theorem query_readOnly (objectId : String) (context : Finset String) (includeSuperseded : Bool) :
    (query lib objectId context includeSuperseded).ReadOnly :=
  Prog.All.bind (Prog.All.ofExcept _) fun _ => Prog.All.bind (Prog.All.ofExcept _) fun _ =>
    Prog.All.bind (allInterpretations_readOnly _) fun _ => Prog.All.bind (collectResults_readOnly _ _) fun _ => trivial

theorem program_readOnly (hc : c.isRead = true) : (program lib c).ReadOnly := by
  cases c with
  | admitInterpretation | admitRelation => cases hc
  | getInterpretation id =>
    refine Prog.All.map (Prog.All.bind (Prog.All.ofExcept _) fun _ => Prog.All.bind (Prog.ReadOnly.read _) fun row => ?_) _
    split
    · trivial
    · exact Prog.All.ofExcept _
  | getRelation id =>
    refine Prog.All.map (Prog.All.bind (Prog.All.ofExcept _) fun _ => Prog.All.bind (Prog.ReadOnly.read _) fun row => ?_) _
    split
    · trivial
    · exact Prog.All.bind (Prog.All.ofExcept _) fun r => Prog.All.bind (validateEndpoints_readOnly r) fun _ => trivial
  | listInterpretations objectId includeSuperseded =>
    refine Prog.All.map (Prog.All.bind (Prog.All.ofExcept _) fun _ => Prog.All.bind (allInterpretations_readOnly _)
      fun values => ?_) _
    split_ifs <;> trivial
  | query objectId context includeSuperseded => exact Prog.All.map (query_readOnly _ _ _) _

theorem reader_safe {Q : Except StoreError (StoreAnswer D) → List (Move Empty (Store J D)) → Store J D → Prop}
    (hc : c.isRead = true) (hQ : ∀ r h s, Q r h s) :
    Triple (storeContract lib) (∅ : Finset Empty) (fun _ _ => True) (program lib c) Q :=
  (Triple.readOnly (.hist fun _ => True) (program_readOnly hc) fun _ s _ _ => ⟨Grows.refl s, trivial⟩).conseq
    (fun _ _ _ h => h) fun r h s _ _ => hQ r h s

theorem program_triple (hlib : lib.Faithful) (c : StoreCall) :
    Triple (storeContract lib) (∅ : Finset Empty) (fun h _ => Quiet h) (program lib c) (storePost lib c) := by
  cases c with
  | admitInterpretation v =>
    refine ((admitInterpretation_settles hlib).map _).conseq (fun _ _ _ h => h) fun r h s _ hr => ?_
    obtain ⟨r', rfl, hr'⟩ := hr
    cases r' <;> exact hr'
  | admitRelation q =>
    refine ((admitRelation_settles hlib).map _).conseq (fun _ _ _ h => h) fun r h s _ hr => ?_
    obtain ⟨r', rfl, hr'⟩ := hr
    cases r' <;> exact hr'
  | getInterpretation id =>
    by_cases hid : nonblank id
    · refine ((getInterpretation_finds hlib hid).map _).conseq (fun _ _ _ _ => trivial) fun r h s _ hr _ => ?_
      obtain ⟨r', rfl, s₀, hseen, ⟨v, hv, hv', rfl⟩ | ⟨hnot, rfl⟩⟩ := hr
      · exact ⟨s₀, hseen, .inl ⟨v, hv, hv', rfl⟩⟩
      · exact ⟨s₀, hseen, .inr ⟨hnot, rfl⟩⟩
    · exact (reader_safe rfl fun r h s hid' => absurd hid' hid).conseq (fun _ _ _ _ => trivial) fun _ _ _ _ h => h
  | getRelation id =>
    by_cases hid : nonblank id
    · refine ((getRelation_finds hlib hid).map _).conseq (fun _ _ _ _ => trivial) fun r h s _ hr _ => ?_
      obtain ⟨r', rfl, s₀, hseen, ⟨q, hq, hq', rfl⟩ | ⟨hnot, rfl⟩⟩ := hr
      · exact ⟨s₀, hseen, .inl ⟨q, hq, hq', rfl⟩⟩
      · exact ⟨s₀, hseen, .inr ⟨hnot, rfl⟩⟩
    · exact (reader_safe rfl fun r h s hid' => absurd hid' hid).conseq (fun _ _ _ _ => trivial) fun _ _ _ _ h => h
  | listInterpretations objectId includeSuperseded =>
    by_cases hobject : nonblank objectId
    · refine ((listInterpretations_gives hlib includeSuperseded hobject).givesMap _).conseq (fun _ _ _ _ => trivial)
        fun r h s _ hr _ => ?_
      cases r with
      | ok a =>
        obtain ⟨vs, rfl, hvs⟩ := hr
        exact ⟨vs, rfl, hvs⟩
      | error e => exact hr.elim
    · exact (reader_safe rfl fun r h s hid' => absurd hid' hobject).conseq (fun _ _ _ _ => trivial) fun _ _ _ _ h => h
  | query objectId context includeSuperseded =>
    by_cases hargs : nonblank objectId ∧ ∀ atom ∈ context, nonblank atom
    · refine ((query_gives hlib includeSuperseded hargs.1 hargs.2).givesMap _).conseq (fun _ _ _ _ => trivial)
        fun r h s _ hr _ _ => ?_
      cases r with
      | ok a =>
        obtain ⟨results, rfl, hresults⟩ := hr
        exact ⟨results, rfl, hresults⟩
      | error e => exact hr.elim
    · exact (reader_safe rfl fun r h s hobject hcontext => absurd ⟨hobject, hcontext⟩ hargs).conseq
        (fun _ _ _ _ => trivial) fun _ _ _ _ h => h

end

/-- Every call runs under the contract of the store. -/
def storeDiscipline (lib : Library J D) : Discipline Empty (Store J D) StoreCall :=
  ⟨Inv lib, fun _ _ _ => Grows, fun _ _ _ => Grows⟩

theorem program_disciplined (hlib : lib.Faithful) :
    Disciplined (storeDiscipline lib) (fun c r _ h s => storePost lib c r h s) (program lib) where
  spawn c s hi := (program_triple hlib c [] s hi fun m hm => by cases hm).mono hi fun _ _ _ _ _ hr => hr.2
  rely _ _ _ hg := hg

/-- One admitted interpretation names another as the one it supersedes. -/
def Supersedes (lib : Library J D) (s : Store J D) (v w : ContextualInterpretation) : Prop :=
  Admitted lib s v ∧ Admitted lib s w ∧ v.supersedesId = some w.interpretationId

/-- Every row is that of one record, and the records refer to each other as they should. -/
structure WellKept (lib : Library J D) (s : Store J D) : Prop where
  records : ∀ row ∈ s.interpretations.rows, ∃ v, row = interpretationRow lib v
  relations : ∀ row ∈ s.relations.rows, ∃ r, row = relationRow lib r
  unique : ∀ v w, Admitted lib s v → Admitted lib s w → v.interpretationId = w.interpretationId → v = w
  uniqueRelation : ∀ r q, Related lib s r → Related lib s q → r.relationId = q.relationId → r = q
  acyclic : ∀ v, ¬ Relation.TransGen (Supersedes lib s) v v
  targets : ∀ v, Admitted lib s v → TargetAdmitted lib s v
  endpoints : ∀ r, Related lib s r → Known lib s r.leftId ∧ Known lib s r.rightId

/-- What holds after a run of calls: the record is in order, no row that a move left was lost or changed
since, a call that raised wrote nothing, every call ended as it should, and a query answers of the
store exactly what it holds. -/
structure RecordKept (lib : Library J D) (P : Pool Empty (Store J D) StoreError (StoreAnswer D) StoreCall) : Prop where
  kept : WellKept lib P.store
  content : ∀ st ∈ P.trace, Grows st.move.after P.store
  raised : ∀ i c e, P.thread i = some ⟨c, some (.raise e)⟩ →
    ∀ st ∈ P.trace, st.thread = i → st.move.after = st.move.before
  ends : ∀ i c r, P.thread i = some ⟨c, some (Prog.ofExcept r)⟩ → storePost lib c r (hist i P.trace) P.store
  answers : ∀ objectId context includeSuperseded, nonblank objectId → (∀ atom ∈ context, nonblank atom) →
    ∃ results, (query lib objectId context includeSuperseded).run P.store = (.ok results, P.store) ∧
      Answered lib (· = P.store) objectId context includeSuperseded P.store results

section
variable {s : Store J D}

theorem Inv.wellKept (hlib : lib.Faithful) (h : Inv lib s) : WellKept lib s where
  records row hrow := (h.row hrow).imp fun _ hv => hv.1
  relations row hrow := (h.related row hrow).imp fun _ hr => hr.1
  unique v w hv hw hid := hv.unique (interpretationRow_injective hlib) hw hid
  uniqueRelation r q hr hq hid := by
    have hget : ∀ x, Related lib s x → s.relations.get? x.relationId = some (relationRow lib x) :=
      fun x hx => Table.get?_of_mem hx
    exact relationRow_injective hlib (Option.some.inj ((hget r hr).symm.trans (hid ▸ hget q hq)))
  acyclic v hcycle := by
    obtain ⟨rank, hrank⟩ := h.supersedes_lt hlib
    have hlt : ∀ w, Relation.TransGen (Supersedes lib s) v w → rank w < rank v := by
      intro w hw
      induction hw with
      | single hs => exact hrank _ _ hs.1 hs.2.1 hs.2.2
      | tail _ hs ih => exact (hrank _ _ hs.1 hs.2.1 hs.2.2).trans ih
    exact (hlt v hcycle).false
  targets v hv := h.target hlib hv
  endpoints r hr := h.endpoints (relationRow_injective hlib) hr

theorem Inv.answers (hlib : lib.Faithful) (h : Inv lib s) {objectId : String} {context : Finset String}
    (includeSuperseded : Bool) (hobject : nonblank objectId) (hcontext : ∀ atom ∈ context, nonblank atom) :
    ∃ results, (query lib objectId context includeSuperseded).run s = (.ok results, s) ∧
      Answered lib (· = s) objectId context includeSuperseded s results := by
  have htriple : Triple (storeContract lib) (∅ : Finset Empty) _ _ _ :=
    query_gives hlib includeSuperseded hobject hcontext
  have hro : (query lib objectId context includeSuperseded).ReadOnly := query_readOnly _ _ _
  obtain ⟨h', hall, -, hend⟩ := (htriple [] s h trivial).run_alone hro fun m hm => by cases hm
  have hsnd := hro.run_snd s
  generalize (query lib objectId context includeSuperseded).run s = outcome at hend hsnd ⊢
  obtain ⟨r, s'⟩ := outcome
  obtain rfl : s' = s := hsnd
  have hseen (s₀ : Store J D) (hs₀ : Seen h' s₀) : s₀ = s' := by
    obtain ⟨m, hm, rfl⟩ := hs₀
    exact hall m hm
  cases r with
  | error e => exact hend.elim
  | ok results =>
    obtain ⟨s₀, hanswered⟩ := hend
    obtain rfl := hseen s₀ hanswered.seen
    refine ⟨results, rfl, rfl, hanswered.mem, hanswered.current, fun res hres => ?_, hanswered.sorted⟩
    obtain ⟨s₁, hs₁, htouching⟩ := hanswered.relations res hres
    exact ⟨s₁, hseen s₁ hs₁, htouching⟩

end

/-- Whatever calls run, and however the statements of several connections fall, crashes included. -/
theorem interpretations_kept (hlib : lib.Faithful) (es : List (Event StoreCall)) :
    RecordKept lib ((Pool.init Store.empty).run (program lib) es) := by
  have hsound := (Sound.init (Inv.empty lib)).run (program_disciplined hlib) es
  have hfollows := Pool.follows (program lib) Store.empty es
  generalize (Pool.init Store.empty).run (program lib) es = P at hsound hfollows ⊢
  have hinv : Inv lib P.store := hsound.inv
  have hends (i : Nat) (c : StoreCall) (r : Except StoreError (StoreAnswer D))
      (hi : P.thread i = some ⟨c, some (Prog.ofExcept r)⟩) : storePost lib c r (hist i P.trace) P.store := by
    have hsafe := hsound.safe i c _ hi
    cases r with
    | ok a => exact hsafe P.store .refl
    | error e => exact hsafe P.store .refl
  refine ⟨hinv.wellKept hlib, fun st hst => ?_, fun i c e hi st hst hth => ?_, hends,
    fun objectId context includeSuperseded hobject hcontext => hinv.answers hlib includeSuperseded hobject hcontext⟩
  · exact hsound.valid.persist (fun _ _ _ _ _ _ hg h => h.trans hg) hst (Grows.refl _)
  · obtain ⟨t, ht, hcall⟩ := hsound.calls st hst
    rw [hth, hi] at ht
    cases ht
    have hmem : st.move ∈ hist i P.trace := mem_hist.2 ⟨st, hst, hth, rfl⟩
    cases hc : c.isRead with
    | true =>
      obtain ⟨later, earlier, htrace⟩ := List.append_of_mem hst
      have hs := (htrace ▸ hfollows.traced).split.2.2
      rw [← hcall] at hs
      exact (Prog.All.after (program_readOnly hc)).steps hs
    | false =>
      have hend := hends i c (.error e) hi
      cases c with
      | admitInterpretation v => exact hend _ hmem
      | admitRelation q => exact hend _ hmem
      | _ => cases hc

/-! ## A record of two -/

/-- A library that keeps the values themselves. -/
def sampleLibrary : Library Json Json := ⟨id, .ok, id⟩

def sampleInterpretation (interpretationId : String) (supersedesId : Option String)
    (hid : nonblank interpretationId) (hs : ∀ t, supersedesId = some t → nonblank t) : ContextualInterpretation :=
  ⟨interpretationId, "o", "m", "r", {"a"}, {"b"}, supersedesId,
    ⟨hid, by decide, by decide, by decide, by decide, by decide, by decide, hs⟩⟩

/-- Two connections: the second supersedes what the first admits. -/
def sampleEvents : List (Event StoreCall) :=
  [.spawn 0 (.admitInterpretation (sampleInterpretation "i1" none (by decide) fun _ h => by cases h)),
    .spawn 1 (.admitInterpretation (sampleInterpretation "i2" (some "i1") (by decide) fun _ h => by
      obtain rfl := Option.some.inj h
      decide)),
    .step 0, .step 1, .step 0, .step 1, .step 1, .spawn 2 (.query "o" {"a"} false), .step 2, .step 2]

theorem sample_kept :
    RecordKept sampleLibrary ((Pool.init Store.empty).run (program sampleLibrary) sampleEvents) :=
  interpretations_kept ⟨fun _ => rfl, fun _ => rfl⟩ sampleEvents

end VeraMono.Contextual
