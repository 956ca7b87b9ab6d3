import VeraMono.Framework.Checks
import VeraMono.Framework.Dependency
import VeraMono.Model.Episode

/-!
# The currentness of an episode

What a retraction invalidates is what depends on the retracted proposition
(`isActive_retractProposition`), so that no active object of any episode cites objects of which
none is active (`current_after`).
-/

namespace VeraMono.Rezon

open Framework

/-! ## Objects -/

namespace Episode

variable {e e' : Episode} {o : ObjectId} {ref : Text}

theorem isStored_proposition {id : Text} :
    e.isStored (.proposition id) = true ↔ ∃ p, e.propositions.get? id = some p := Option.isSome_iff_exists

theorem isStored_relation {id : Text} :
    e.isStored (.relation id) = true ↔ ∃ r, e.relations.get? id = some r := Option.isSome_iff_exists

theorem isStored_of_isActive (h : e.isActive o = true) : e.isStored o = true := by
  cases o with
  | proposition id => exact e.propositions_stored id (isActive_proposition.1 h)
  | relation id => exact e.relations_stored id (isActive_relation.1 h)

theorem known_iff : e.known ref = true ↔ ∃ o, e.isStored o = true ∧ o.ref = ref := by
  rw [known, Bool.or_eq_true]
  constructor
  · rintro (h | h)
    · exact ⟨_, h, rfl⟩
    · exact ⟨_, h, rfl⟩
  · rintro ⟨_ | _, h, rfl⟩
    · exact .inl h
    · exact .inr h

theorem current_iff : e.current ref = true ↔ ∃ o, e.isActive o = true ∧ o.ref = ref := by
  rw [current, Bool.or_eq_true]
  constructor
  · rintro (h | h)
    · exact ⟨_, h, rfl⟩
    · exact ⟨_, h, rfl⟩
  · rintro ⟨_ | _, h, rfl⟩
    · exact .inl h
    · exact .inr h

theorem mem_storedObjects : o ∈ e.storedObjects ↔ e.isStored o = true := by
  cases o with
  | proposition id =>
    rw [isStored_proposition]
    simp only [storedObjects, Finset.mem_union, List.mem_toFinset, List.mem_map, ObjectId.proposition.injEq,
      reduceCtorEq, and_false, exists_false, or_false]
    exact ⟨fun ⟨p, hp, hid⟩ => ⟨p, hid ▸ Table.get?_of_mem hp⟩,
      fun ⟨p, hp⟩ => ⟨p, Table.mem_of_get? hp, Table.get?_key hp⟩⟩
  | relation id =>
    rw [isStored_relation]
    simp only [storedObjects, Finset.mem_union, List.mem_toFinset, List.mem_map, ObjectId.relation.injEq,
      reduceCtorEq, and_false, exists_false, false_or]
    exact ⟨fun ⟨p, hp, hid⟩ => ⟨p, hid ▸ Table.get?_of_mem hp⟩,
      fun ⟨p, hp⟩ => ⟨p, Table.mem_of_get? hp, Table.get?_key hp⟩⟩

/-- Whatever an active object cites, if it is the id of an object, is the id of an active one. -/
def Current (e : Episode) : Prop :=
  ∀ o, e.isActive o = true → ∀ ref ∈ e.citations o, e.known ref = true → e.current ref = true

/-- The object depends on `x` by citations of active objects. -/
def DependsOn (e : Episode) (x o : ObjectId) : Prop :=
  Reaches (fun o => e.isActive o = true) ObjectId.ref (fun o ref => ref ∈ e.citations o) x o

variable {eventType : String} {target : Text} {reason : Option Text}

@[simp] theorem isActive_record : (e.record eventType target reason).isActive o = e.isActive o := by
  cases o <;> rfl

@[simp] theorem isStored_record : (e.record eventType target reason).isStored o = e.isStored o := by
  cases o <;> rfl

@[simp] theorem citations_record : (e.record eventType target reason).citations o = e.citations o := by
  cases o <;> rfl

@[simp] theorem activeObjects_record :
    (e.record eventType target reason).activeObjects = e.activeObjects := rfl

@[simp] theorem length_record :
    (e.record eventType target reason).events.length = e.events.length + 1 := by simp [record]

variable {o' : ObjectId}

@[simp] theorem propositions_drop : (e.drop o).propositions = e.propositions := by cases o <;> rfl

@[simp] theorem relations_drop : (e.drop o).relations = e.relations := by cases o <;> rfl

@[simp] theorem events_drop : (e.drop o).events = e.events := by cases o <;> rfl

@[simp] theorem episodeId_drop : (e.drop o).episodeId = e.episodeId := by cases o <;> rfl

theorem isStored_congr (hp : e'.propositions = e.propositions) (hr : e'.relations = e.relations) :
    e'.isStored o = e.isStored o := by
  cases o <;> simp only [isStored, hp, hr]

theorem citations_congr (hp : e'.propositions = e.propositions) (hr : e'.relations = e.relations) :
    e'.citations o = e.citations o := by
  cases o <;> simp only [citations, hp, hr]

end Episode

/-! ## Invalidation -/

namespace Invalidation

/-- What the loop keeps: the objects no longer active depend on `x`, and their ids are the
references that are invalidated. -/
structure Keeps (e : Episode) (x : ObjectId) (st : Invalidation) : Prop where
  episodeId : st.episode.episodeId = e.episodeId
  propositions : st.episode.propositions = e.propositions
  relations : st.episode.relations = e.relations
  active : ∀ o, st.episode.isActive o = true → e.isActive o = true
  root : ¬ st.episode.isActive x = true
  refs : ∀ ref, ref ∈ st.invalidatedRefs ↔
    ∃ o, e.isActive o = true ∧ ¬ st.episode.isActive o = true ∧ o.ref = ref
  depends : ∀ o, e.isActive o = true → ¬ st.episode.isActive o = true → e.DependsOn x o
  events : st.episode.events.length + st.episode.activeObjects.card = e.events.length + e.activeObjects.card

variable {e : Episode} {x : ObjectId} {st : Invalidation} {invalidated : String} {reason : Text} {o : ObjectId}

/-- The object cites one of the references that are invalidated. -/
def Cites (st : Invalidation) (o : ObjectId) : Prop := ∃ ref ∈ st.episode.citations o, ref ∈ st.invalidatedRefs

theorem visit_of_cites (h : st.Cites o) : st.visit invalidated reason o =
    ⟨(st.episode.drop o).record invalidated o.ref (some reason), o.ref :: st.invalidatedRefs, true⟩ := by
  obtain ⟨ref, hmem, hin⟩ := h
  exact if_pos (List.any_eq_true.2 ⟨ref, hmem, decide_eq_true hin⟩)

theorem visit_of_not_cites (h : ¬ st.Cites o) : st.visit invalidated reason o = st := by
  refine if_neg fun hany => h ?_
  obtain ⟨ref, hmem, hin⟩ := List.any_eq_true.1 hany
  exact ⟨ref, hmem, of_decide_eq_true hin⟩

theorem not_isActive_drop {o' : ObjectId} :
    ¬ (st.episode.drop o).isActive o' = true ↔ ¬ st.episode.isActive o' = true ∨ o' = o := by
  rw [Episode.isActive_drop, not_and_or, not_not]

theorem Keeps.visit (h : Keeps e x st) (ho : st.episode.isActive o = true) :
    Keeps e x (st.visit invalidated reason o) := by
  by_cases hcites : st.Cites o
  · rw [visit_of_cites hcites]
    obtain ⟨ref, hmem, hin⟩ := hcites
    have hdepends : e.DependsOn x o := by
      obtain ⟨o', hactive, hnot, rfl⟩ := (h.refs ref).1 hin
      rw [Episode.citations_congr h.propositions h.relations] at hmem
      exact .cites (h.active o ho) hmem (h.depends o' hactive hnot)
    exact {
      episodeId := by rw [← h.episodeId]; exact Episode.episodeId_drop
      propositions := by rw [← h.propositions]; exact Episode.propositions_drop
      relations := by rw [← h.relations]; exact Episode.relations_drop
      active := fun o' h' => h.active o' (Episode.isActive_drop.1 (Episode.isActive_record ▸ h')).1
      root := fun h' => h.root (Episode.isActive_drop.1 (Episode.isActive_record ▸ h')).1
      refs := fun r => by
        simp only [Episode.isActive_record, not_isActive_drop, List.mem_cons, h.refs]
        constructor
        · rintro (rfl | ⟨o', hactive, hnot, rfl⟩)
          · exact ⟨o, h.active o ho, .inr rfl, rfl⟩
          · exact ⟨o', hactive, .inl hnot, rfl⟩
        · rintro ⟨o', hactive, hnot | rfl, rfl⟩
          · exact .inr ⟨o', hactive, hnot, rfl⟩
          · exact .inl rfl
      depends := fun o' hactive hnot => by
        rw [Episode.isActive_record, not_isActive_drop] at hnot
        rcases hnot with hnot | rfl
        · exact h.depends o' hactive hnot
        · exact hdepends
      events := by
        have hcard := Episode.card_drop ho
        have hevents := h.events
        simp only [Episode.length_record, Episode.activeObjects_record, Episode.events_drop]
        omega }
  · rwa [visit_of_not_cites hcites]

theorem Keeps.foldl_visit :
    ∀ (objects : List ObjectId) (st : Invalidation), objects.Nodup →
      (∀ o ∈ objects, st.episode.isActive o = true) → Keeps e x st →
      Keeps e x (objects.foldl (Invalidation.visit invalidated reason) st)
  | [], _, _, _, h => h
  | o :: objects, st, hnd, hactive, h => by
    rw [List.nodup_cons] at hnd
    exact Keeps.foldl_visit objects _ hnd.2
      (fun o' ho' => isActive_visit reason (hactive o' (List.mem_cons_of_mem _ ho')) fun heq => hnd.1 (heq ▸ ho'))
      (h.visit (hactive o List.mem_cons_self))

theorem changed_foldl_visit :
    ∀ (objects : List ObjectId) (st : Invalidation), st.changed = true →
      (objects.foldl (visit invalidated reason) st).changed = true
  | [], _, h => h
  | o :: objects, st, h => by
    refine changed_foldl_visit objects _ ?_
    by_cases hcites : st.Cites o
    · rw [visit_of_cites hcites]
    · rwa [visit_of_not_cites hcites]

/-- A loop that changes nothing has found no object that cites an invalidated one. -/
theorem of_not_changed :
    ∀ (objects : List ObjectId) (st : Invalidation),
      ¬ (objects.foldl (visit invalidated reason) st).changed = true →
      objects.foldl (visit invalidated reason) st = st ∧ ∀ o ∈ objects, ¬ st.Cites o
  | [], _, _ => ⟨rfl, fun _ h => absurd h List.not_mem_nil⟩
  | o :: objects, st, hnot => by
    rw [List.foldl_cons] at hnot ⊢
    have hcites : ¬ st.Cites o := fun hcites =>
      hnot (changed_foldl_visit objects _ (by rw [visit_of_cites hcites]))
    rw [visit_of_not_cites hcites] at hnot ⊢
    obtain ⟨heq, hrest⟩ := of_not_changed objects st hnot
    exact ⟨heq, List.forall_mem_cons.2 ⟨hcites, hrest⟩⟩

variable {order : SetOrder} {n : Nat}

theorem Keeps.pass (h : Keeps e x st) : Keeps e x (st.pass reason order n) := by
  have hstart : Keeps e x ({ st with changed := false } : Invalidation) :=
    ⟨h.episodeId, h.propositions, h.relations, h.active, h.root, h.refs, h.depends, h.events⟩
  have hpropositions : Keeps e x
      (({ st with changed := false } : Invalidation).visitPropositions reason order (2 * n)) :=
    Keeps.foldl_visit _ _ (nodup_propositions order _) (fun _ => isActive_enumerated_proposition) hstart
  exact Keeps.foldl_visit _ _ (nodup_relations order _) (fun _ => isActive_enumerated_relation) hpropositions

/-- After a pass that changes nothing, no active object cites an invalidated one. -/
theorem not_cites_pass (h : ¬ (st.pass reason order n).changed = true) {o : ObjectId}
    (ho : (st.pass reason order n).episode.isActive o = true) : ¬ (st.pass reason order n).Cites o := by
  obtain ⟨hrel, hnotRel⟩ := of_not_changed _ _ h
  have hpass : st.pass reason order n =
      ({ st with changed := false } : Invalidation).visitPropositions reason order (2 * n) := hrel
  rw [hpass] at h ho ⊢
  obtain ⟨hprop, hnotProp⟩ := of_not_changed _ _ h
  cases o with
  | relation id =>
    exact hnotRel _ (List.mem_map_of_mem ((order.mem_enumerate _ _ id).2 (Episode.isActive_relation.1 ho)))
  | proposition id =>
    have hstart : ({ st with changed := false } : Invalidation).visitPropositions reason order (2 * n) =
        { st with changed := false } := hprop
    rw [hstart] at ho ⊢
    exact hnotProp _ (List.mem_map_of_mem ((order.mem_enumerate _ _ id).2 (Episode.isActive_proposition.1 ho)))

theorem run_keeps (reason : Text) (order : SetOrder) (n : Nat) (h : Keeps e x st) :
    Keeps e x (run reason order n st) ∧
      ∀ o, (run reason order n st).episode.isActive o = true → ¬ (run reason order n st).Cites o := by
  fun_induction run reason order n st with
  | case1 n st _ ih => exact ih h.pass
  | case2 n st hnot => exact ⟨h.pass, fun o ho => not_cites_pass hnot ho⟩

end Invalidation

/-! ## Operations -/

namespace Episode

variable {e e' : Episode} {o : ObjectId}

theorem require_ok {kind : RezonErrorClass} {c : Bool} {message : Text} {refs : List Text} :
    require kind c message refs = .ok () ↔ c = true := by
  cases c <;> simp [require]

theorem requireThat_ok {c : Bool} {message : String} : requireThat c message = .ok () ↔ c = true :=
  require_ok

theorem requireNone_ok {kind : RezonErrorClass} {refs : List Text} {message : String} :
    requireNone kind refs message = .ok () ↔ refs = [] :=
  require_ok.trans decide_eq_true_iff

/-- One new object: it is active, and cites no inactive one. -/
structure AddsObject (e : Episode) (o : ObjectId) (e' : Episode) : Prop where
  fresh : ¬ e.isStored o = true
  stored : ∀ o', e'.isStored o' = true ↔ e.isStored o' = true ∨ o' = o
  active : ∀ o', e'.isActive o' = true ↔ e.isActive o' = true ∨ o' = o
  citations : ∀ o', o' ≠ o → e'.citations o' = e.citations o'
  cites : ∀ ref ∈ e'.citations o, e.known ref = true → e.current ref = true
  propositions : ∀ id p, e.propositions.get? id = some p → e'.propositions.get? id = some p
  relations : ∀ id r, e.relations.get? id = some r → e'.relations.get? id = some r
  events : e'.events.length = e.events.length + 1

theorem adds_storeProposition {p : Proposition} (hnew : e.propositions.get? p.propositionId = none)
    (hcites : ∀ ref ∈ p.sourceRefs, e.known ref = true → e.current ref = true) (eventType : String)
    (reason : Option Text) :
    AddsObject e (.proposition p.propositionId)
      ((e.storeProposition p hnew).record eventType p.propositionId reason) where
  fresh h := by rw [isStored, hnew] at h; exact Bool.false_ne_true h
  stored o' := by
    rw [isStored_record]
    cases o' with
    | relation id => simp [isStored, storeProposition]
    | proposition id =>
      by_cases hid : id = p.propositionId
      · simp [hid, isStored, storeProposition, Table.get?_insert_self hnew]
      · simp [hid, isStored, storeProposition, Table.get?_insert_other hid]
  active o' := by cases o' <;> simp [storeProposition, or_comm]
  citations o' hne := by
    cases o' with
    | relation id => rfl
    | proposition id =>
      have hid : id ≠ p.propositionId := fun h => hne (h ▸ rfl)
      rw [citations_record]
      simp only [Episode.citations, storeProposition, Table.get?_insert_other hid]
  cites ref href := by
    rw [citations_record] at href
    simp only [Episode.citations, storeProposition, Table.get?_insert_self hnew, Option.elim_some] at href
    exact hcites ref href
  propositions id q hq := by
    have hid : id ≠ p.propositionId := fun h => by rw [h, hnew] at hq; cases hq
    exact (Table.get?_insert_other hid).trans hq
  relations _ _ h := h
  events := length_record

theorem adds_storeRelation {r : Hyperrelation} (hnew : e.relations.get? r.relationId = none)
    (hcites : ∀ ref ∈ r.participants.map Participant.refId ++ r.sourceRefs,
      e.known ref = true → e.current ref = true) (eventType : String) (reason : Option Text) :
    AddsObject e (.relation r.relationId) ((e.storeRelation r hnew).record eventType r.relationId reason) where
  fresh h := by rw [isStored, hnew] at h; exact Bool.false_ne_true h
  stored o' := by
    rw [isStored_record]
    cases o' with
    | proposition id => simp [isStored, storeRelation]
    | relation id =>
      by_cases hid : id = r.relationId
      · simp [hid, isStored, storeRelation, Table.get?_insert_self hnew]
      · simp [hid, isStored, storeRelation, Table.get?_insert_other hid]
  active o' := by cases o' <;> simp [storeRelation, or_comm]
  citations o' hne := by
    cases o' with
    | proposition id => rfl
    | relation id =>
      have hid : id ≠ r.relationId := fun h => hne (h ▸ rfl)
      rw [citations_record]
      simp only [Episode.citations, storeRelation, Table.get?_insert_other hid]
  cites ref href := by
    rw [citations_record] at href
    simp only [Episode.citations, storeRelation, Table.get?_insert_self hnew, Option.elim_some] at href
    exact hcites ref href
  propositions _ _ h := h
  relations id q hq := by
    have hid : id ≠ r.relationId := fun h => by rw [h, hnew] at hq; cases hq
    exact (Table.get?_insert_other hid).trans hq
  events := length_record

theorem current_of_none {refs : List Text} (h : e.inactiveCanonicalSourceRefs refs = []) :
    ∀ ref ∈ refs, e.known ref = true → e.current ref = true := by
  intro ref href hknown
  by_contra hnot
  refine absurd (List.mem_filter.2 ⟨href, ?_⟩) (List.eq_nil_iff_forall_not_mem.1 h ref)
  simp [hknown, hnot]

theorem cites_of_none {r : Hyperrelation}
    (hparticipants : (r.participants.map Participant.refId).filter (fun ref => ¬ e.current ref) = [])
    (hsources : e.inactiveCanonicalSourceRefs r.sourceRefs = []) :
    ∀ ref ∈ r.participants.map Participant.refId ++ r.sourceRefs,
      e.known ref = true → e.current ref = true := by
  intro ref href hknown
  rcases List.mem_append.1 href with hpart | hsource
  · simpa using List.filter_eq_nil_iff.1 hparticipants ref hpart
  · exact current_of_none hsources ref hsource hknown

theorem adds_addProposition {given : Given Proposition} (h : e.addProposition given = .ok e') :
    e' = e ∨ ∃ o, AddsObject e o e' := by
  obtain ⟨p, -, h⟩ := bind_eq_ok.1 h
  obtain ⟨-, -, h⟩ := bind_eq_ok.1 h
  obtain ⟨-, -, h⟩ := bind_eq_ok.1 h
  obtain ⟨⟨⟩, hnone, h⟩ := bind_eq_ok.1 h
  split at h
  · obtain ⟨-, -, h⟩ := bind_eq_ok.1 h
    obtain ⟨-, -, h⟩ := bind_eq_ok.1 h
    exact .inl (pure_ok.1 h)
  · rename_i hnew
    rw [pure_ok.1 h]
    exact .inr ⟨_, adds_storeProposition hnew (current_of_none (requireNone_ok.1 hnone)) _ _⟩

theorem adds_addRelation {given : Given Hyperrelation} (h : e.addRelation given = .ok e') :
    e' = e ∨ ∃ o, AddsObject e o e' := by
  obtain ⟨r, -, h⟩ := bind_eq_ok.1 h
  obtain ⟨-, -, h⟩ := bind_eq_ok.1 h
  obtain ⟨-, -, h⟩ := bind_eq_ok.1 h
  obtain ⟨⟨⟩, hparticipants, h⟩ := bind_eq_ok.1 h
  obtain ⟨⟨⟩, hnone, h⟩ := bind_eq_ok.1 h
  split at h
  · obtain ⟨-, -, h⟩ := bind_eq_ok.1 h
    obtain ⟨-, -, h⟩ := bind_eq_ok.1 h
    exact .inl (pure_ok.1 h)
  · rename_i hnew
    rw [pure_ok.1 h]
    exact .inr ⟨_, adds_storeRelation hnew
      (cites_of_none (requireNone_ok.1 hparticipants) (requireNone_ok.1 hnone)) _ _⟩

/-- What `retract_proposition` does: the objects that depend on the proposition are active no more. -/
structure Retracts (e : Episode) (x : Text) (e' : Episode) : Prop where
  wasActive : e.isActive (.proposition x) = true
  propositions : e'.propositions = e.propositions
  relations : e'.relations = e.relations
  active : ∀ o, e'.isActive o = true → e.isActive o = true
  dropped : ∀ o, (e.isActive o = true ∧ ¬ e'.isActive o = true) ↔ e.DependsOn (.proposition x) o
  cites : ∀ o o', e'.isActive o = true → e.isActive o' = true → ¬ e'.isActive o' = true →
    o'.ref ∉ e.citations o
  events : e'.events.length + e'.activeObjects.card = e.events.length + e.activeObjects.card

theorem retracts_of_keeps {x : Text} {st : Invalidation} (hactive : e.isActive (.proposition x) = true)
    (h : Invalidation.Keeps e (.proposition x) st)
    (hdone : ∀ o, st.episode.isActive o = true → ¬ st.Cites o) : e.Retracts x st.episode := by
  have hcites (o o' : ObjectId) (ho : st.episode.isActive o = true) (ho' : e.isActive o' = true)
      (hnot : ¬ st.episode.isActive o' = true) : o'.ref ∉ e.citations o := by
    intro hmem
    rw [← citations_congr h.propositions h.relations] at hmem
    exact hdone o ho ⟨o'.ref, hmem, (h.refs o'.ref).2 ⟨o', ho', hnot, rfl⟩⟩
  exact {
    wasActive := hactive
    propositions := h.propositions
    relations := h.relations
    active := h.active
    dropped := fun o => Reaches.iff_of_closed (fun o => e.isActive o = true ∧ ¬ st.episode.isActive o = true)
      ⟨hactive, h.root⟩ (fun o ho => h.depends o ho.1 ho.2)
      fun o o' ho hnot ho' => hcites o o' (by_contra fun h' => hnot ⟨ho, h'⟩) ho'.1 ho'.2
    cites := hcites
    events := h.events }

theorem retracts_of_ok {order : SetOrder} {id reason : Given Text}
    (h : e.retractProposition order id reason = .ok e') : ∃ x, id = .exact x ∧ e.Retracts x e' := by
  obtain ⟨x, hx, h⟩ := bind_eq_ok.1 h
  obtain ⟨-, -, h⟩ := bind_eq_ok.1 h
  obtain ⟨why, -, h⟩ := bind_eq_ok.1 h
  obtain ⟨-, -, h⟩ := bind_eq_ok.1 h
  obtain ⟨-, -, h⟩ := bind_eq_ok.1 h
  obtain ⟨⟨⟩, hactive, h⟩ := bind_eq_ok.1 h
  have hx : id = .exact x := by
    cases id with
    | exact y => cases hx; rfl
    | malformed message => cases hx
  refine ⟨x, hx, ?_⟩
  have hactive := requireThat_ok.1 hactive
  have hcard := card_drop hactive
  have hnot {o : ObjectId} : ¬ (e.drop (.proposition x)).isActive o = true ↔
      ¬ e.isActive o = true ∨ o = .proposition x := by
    rw [isActive_drop, not_and_or, not_not]
  have hstart : Invalidation.Keeps e (.proposition x)
      ⟨(e.drop (.proposition x)).record "proposition_retracted" x (some why), [x], false⟩ := {
    episodeId := rfl
    propositions := rfl
    relations := rfl
    active := fun o ho => (isActive_drop.1 (isActive_record ▸ ho)).1
    root := fun h => (isActive_drop.1 (isActive_record ▸ h)).2 rfl
    refs := fun ref => by
      simp only [isActive_record, hnot, List.mem_singleton]
      constructor
      · rintro rfl
        exact ⟨_, hactive, .inr rfl, rfl⟩
      · rintro ⟨o, ho, hno | rfl, rfl⟩
        · exact absurd ho hno
        · rfl
    depends := fun o ho hno => by
      rw [isActive_record, hnot] at hno
      rcases hno with hno | rfl
      · exact absurd ho hno
      · exact .self
    events := by
      simp only [length_record, activeObjects_record, events_drop]
      omega }
  obtain ⟨hkeeps, hcites⟩ := Invalidation.run_keeps (cat [lit "dependency_retracted:", x]) order 0 hstart
  rw [pure_ok.1 h]
  exact retracts_of_keeps hactive hkeeps hcites

/-! ## Runs -/

inductive Call
  | addProposition (proposition : Given Proposition)
  | addRelation (relation : Given Hyperrelation)
  | retractProposition (order : SetOrder) (propositionId reason : Given Text)

def Call.perform (e : Episode) : Call → Except RezonError Episode
  | .addProposition proposition => e.addProposition proposition
  | .addRelation relation => e.addRelation relation
  | .retractProposition order propositionId reason => e.retractProposition order propositionId reason

/-- The episode after a call, which is as before where the call raises. -/
def Call.apply (e : Episode) (call : Call) : Episode :=
  match call.perform e with
  | .ok e' => e'
  | .error _ => e

/-- The episode after a sequence of calls. -/
def after (e : Episode) (calls : List Call) : Episode := calls.foldl Call.apply e

/-- A call changes nothing, adds one object or retracts one proposition. -/
theorem step_cases (e : Episode) (call : Call) :
    call.apply e = e ∨ (∃ o, AddsObject e o (call.apply e)) ∨ ∃ x, e.Retracts x (call.apply e) := by
  unfold Call.apply
  cases hperform : call.perform e with
  | error err => exact .inl rfl
  | ok e' =>
    cases call with
    | addProposition p => exact (adds_addProposition hperform).imp_right .inl
    | addRelation r => exact (adds_addRelation hperform).imp_right .inl
    | retractProposition order id reason =>
      obtain ⟨x, -, hretracts⟩ := retracts_of_ok hperform
      exact .inr (.inr ⟨x, hretracts⟩)

theorem AddsObject.current (h : AddsObject e o e') (hcurrent : e.Current) : e'.Current := by
  have hmono (ref : Text) (href : e.current ref = true) : e'.current ref = true := by
    obtain ⟨o', ho', rfl⟩ := current_iff.1 href
    exact current_iff.2 ⟨o', (h.active o').2 (.inl ho'), rfl⟩
  intro o' ho' ref href hknown
  obtain ⟨o'', hstored, rfl⟩ := known_iff.1 hknown
  rcases (h.stored o'').1 hstored with hstored | rfl
  · refine hmono _ ?_
    by_cases heq : o' = o
    · rw [heq] at href
      exact h.cites _ href (known_iff.2 ⟨o'', hstored, rfl⟩)
    · have hactive := ((h.active o').1 ho').resolve_right heq
      rw [h.citations o' heq] at href
      exact hcurrent o' hactive _ href (known_iff.2 ⟨o'', hstored, rfl⟩)
  · exact current_iff.2 ⟨o'', (h.active o'').2 (.inr rfl), rfl⟩

theorem Retracts.current {x : Text} (h : e.Retracts x e') (hcurrent : e.Current) : e'.Current := by
  intro o ho ref href hknown
  rw [citations_congr h.propositions h.relations] at href
  have hknown : e.known ref = true := by
    obtain ⟨o', hstored, rfl⟩ := known_iff.1 hknown
    exact known_iff.2 ⟨o', isStored_congr h.propositions h.relations ▸ hstored, rfl⟩
  obtain ⟨o', ho', rfl⟩ := current_iff.1 (hcurrent o (h.active o ho) ref href hknown)
  by_contra hnot
  exact h.cites o o' ho ho' (fun h' => hnot (current_iff.2 ⟨o', h', rfl⟩)) href

theorem current_apply (call : Call) (h : e.Current) : (call.apply e).Current := by
  rcases step_cases e call with heq | ⟨o, hadds⟩ | ⟨x, hretracts⟩
  · rwa [heq]
  · exact hadds.current h
  · exact hretracts.current h

theorem current_after {e : Episode} (calls : List Call) (h : e.Current) : (e.after calls).Current := by
  induction calls generalizing e with
  | nil => exact h
  | cons call calls ih => exact ih (current_apply call h)

/-- What an episode keeps for good: what it stores, and that an object is inactive. -/
structure Succeeds (e e' : Episode) : Prop where
  propositions : ∀ id p, e.propositions.get? id = some p → e'.propositions.get? id = some p
  relations : ∀ id r, e.relations.get? id = some r → e'.relations.get? id = some r
  inactive : ∀ o, e.isStored o = true → ¬ e.isActive o = true → ¬ e'.isActive o = true

theorem Succeeds.refl (e : Episode) : e.Succeeds e := ⟨fun _ _ h => h, fun _ _ h => h, fun _ _ h => h⟩

theorem Succeeds.stored (h : e.Succeeds e') (ho : e.isStored o = true) : e'.isStored o = true := by
  cases o with
  | proposition id =>
    obtain ⟨p, hp⟩ := isStored_proposition.1 ho
    exact isStored_proposition.2 ⟨p, h.propositions id p hp⟩
  | relation id =>
    obtain ⟨r, hr⟩ := isStored_relation.1 ho
    exact isStored_relation.2 ⟨r, h.relations id r hr⟩

theorem Succeeds.trans {e'' : Episode} (h : e.Succeeds e') (h' : e'.Succeeds e'') : e.Succeeds e'' where
  propositions id p hp := h'.propositions id p (h.propositions id p hp)
  relations id r hr := h'.relations id r (h.relations id r hr)
  inactive o ho hnot := h'.inactive o (h.stored ho) (h.inactive o ho hnot)

theorem succeeds_apply (e : Episode) (call : Call) : e.Succeeds (call.apply e) := by
  rcases step_cases e call with heq | ⟨o, hadds⟩ | ⟨x, hretracts⟩
  · rw [heq]
    exact .refl e
  · refine ⟨hadds.propositions, hadds.relations, fun o' hstored hnot h' => ?_⟩
    rcases (hadds.active o').1 h' with h' | rfl
    · exact hnot h'
    · exact hadds.fresh hstored
  · exact ⟨fun id p hp => hretracts.propositions ▸ hp, fun id r hr => hretracts.relations ▸ hr,
      fun o _ hnot h' => hnot (hretracts.active o h')⟩

theorem succeeds_after (e : Episode) (calls : List Call) : e.Succeeds (e.after calls) := by
  induction calls generalizing e with
  | nil => exact .refl e
  | cons call calls ih => exact (succeeds_apply e call).trans (ih _)

/-- How many events are new: one for each object added or deactivated. -/
theorem length_events_apply (e : Episode) (call : Call) :
    (call.apply e).events.length = e.events.length + ((call.apply e).storedObjects \ e.storedObjects).card +
      (e.activeObjects \ (call.apply e).activeObjects).card := by
  rcases step_cases e call with heq | ⟨o, hadds⟩ | ⟨x, hretracts⟩
  · rw [heq, Finset.sdiff_self, Finset.sdiff_self]
    rfl
  · have hstored : (call.apply e).storedObjects \ e.storedObjects = {o} := by
      ext o'
      simp only [Finset.mem_sdiff, mem_storedObjects, hadds.stored, Finset.mem_singleton]
      exact ⟨fun h => h.1.resolve_left h.2, fun h => ⟨.inr h, h ▸ hadds.fresh⟩⟩
    have hactive : e.activeObjects \ (call.apply e).activeObjects = ∅ := by
      refine Finset.sdiff_eq_empty_iff_subset.2 fun o' ho' => ?_
      exact mem_activeObjects.2 ((hadds.active o').2 (.inl (mem_activeObjects.1 ho')))
    rw [hstored, hactive, hadds.events, Finset.card_singleton, Finset.card_empty]
  · have hstored : (call.apply e).storedObjects \ e.storedObjects = ∅ := by
      refine Finset.sdiff_eq_empty_iff_subset.2 fun o' ho' => ?_
      have hsame := isStored_congr (o := o') hretracts.propositions hretracts.relations
      exact mem_storedObjects.2 (hsame ▸ mem_storedObjects.1 ho')
    have hsubset : (call.apply e).activeObjects ⊆ e.activeObjects := fun o' ho' =>
      mem_activeObjects.2 (hretracts.active o' (mem_activeObjects.1 ho'))
    have hcard := Finset.card_sdiff_add_card_eq_card hsubset
    have hevents := hretracts.events
    rw [hstored, Finset.card_empty]
    omega

theorem current_new (episodeId : Text) : (new episodeId).Current := by
  intro o ho
  cases o <;> simp [new] at ho

/-- No text is the id of a proposition and of a relation. -/
def NamedOnce (e : Episode) : Prop :=
  ∀ o o', e.isStored o = true → e.isStored o' = true → o.ref = o'.ref → o = o'

theorem DependsOn.isActive {x : ObjectId} (h : e.DependsOn x o) (hx : e.isActive x = true) : e.isActive o = true := by
  cases h with
  | self => exact hx
  | cites hlive _ _ => exact hlive

/-- Dependency on an active proposition goes through active objects, where no two objects share an id. -/
theorem dependsOn_of_named {x : ObjectId} (hcurrent : e.Current) (hnamed : e.NamedOnce) (hx : e.isActive x = true) :
    e.DependsOn x o ↔ e.isActive o = true ∧
      Reaches (fun o => e.isStored o = true) ObjectId.ref (fun o ref => ref ∈ e.citations o) x o := by
  constructor
  · exact fun h => ⟨h.isActive hx, h.mono fun _ => isStored_of_isActive⟩
  · rintro ⟨ho, hreaches⟩
    refine hreaches.of_stored (isStored_of_isActive hx) (fun a b ha hcites hb => ?_) ho
    obtain ⟨c, hc, href⟩ := current_iff.1 (hcurrent a ha b.ref hcites (known_iff.2 ⟨b, hb, rfl⟩))
    rwa [hnamed b c hb (isStored_of_isActive hc) href.symm]

/-! ## Several retractions -/

/-- A call of `retract_proposition` that has a proposition to retract. -/
def Retractable (e : Episode) (x why : Text) : Prop :=
  ¬ isEmpty x ∧ ¬ isEmpty why ∧ e.isActive (.proposition x) = true

theorem retract_apply (order : SetOrder) (x why : Text) :
    ((Call.retractProposition order (.exact x) (.exact why)).apply e = e ∧ ¬ e.Retractable x why) ∨
      e.Retractable x why ∧ e.Retracts x ((Call.retractProposition order (.exact x) (.exact why)).apply e) := by
  rw [Call.apply]
  cases h : (Call.retractProposition order (.exact x) (.exact why)).perform e with
  | error err =>
    refine .inl ⟨rfl, fun ⟨hx, hwhy, hactive⟩ => ?_⟩
    simp [Call.perform, retractProposition, Given.get, requireThat, require, hx, hwhy,
      isActive_proposition.1 hactive, isStored_of_isActive hactive, ok_bind] at h
  | ok e' =>
    obtain ⟨_, ⟨⟩, hretracts⟩ := retracts_of_ok h
    obtain ⟨_, ⟨⟩, h⟩ := bind_eq_ok.1 h
    obtain ⟨⟨⟩, hx, h⟩ := bind_eq_ok.1 h
    obtain ⟨_, ⟨⟩, h⟩ := bind_eq_ok.1 h
    obtain ⟨⟨⟩, hwhy, -⟩ := bind_eq_ok.1 h
    exact .inr ⟨⟨of_decide_eq_true (requireThat_ok.1 hx), of_decide_eq_true (requireThat_ok.1 hwhy),
      hretracts.wasActive⟩, hretracts⟩

theorem Retracts.active_iff {x : Text} {e' : Episode} {o : ObjectId} (h : e.Retracts x e') :
    e'.isActive o = true ↔ e.isActive o = true ∧ ¬ e.DependsOn (.proposition x) o := by
  rw [← h.dropped o, not_and, not_not]
  exact ⟨fun ho => ⟨h.active o ho, fun _ => ho⟩, fun ⟨ho, hkept⟩ => hkept ho⟩

/-- What stays active through a retraction depends on an active object as it did before. -/
theorem Retracts.depends_iff {x : Text} {e' : Episode} {y o : ObjectId} (h : e.Retracts x e')
    (ho : e'.isActive o = true) :
    (e'.isActive y = true → ¬ e'.DependsOn y o) ↔ (e.isActive y = true → ¬ e.DependsOn y o) := by
  have hn := (h.active_iff.1 ho).2
  have hcites : e'.citations = e.citations := funext fun o => citations_congr h.propositions h.relations
  rw [DependsOn, hcites]
  constructor
  · intro hy hactive hd
    rcases hd.left_or fun o ho hn => h.active_iff.2 ⟨ho, hn⟩ with hd' | hx
    · exact hy (h.active_iff.2 ⟨hactive, fun hx => hn (hx.trans hd)⟩) hd'
    · exact hn hx
  · exact fun hy hactive hd => hy (h.active y hactive) (hd.mono h.active)

end Episode

/-- After any calls on a new episode: no active object cites an object of which none is active; a
retraction deactivates what depends on the proposition and no more; what is inactive or stored
stays so; a call that raises changes nothing, and each event is an object added or deactivated. -/
theorem episode_currentness (episodeId : Text) (calls : List Episode.Call) :
    let e := (Episode.new episodeId).after calls
    (∀ o, e.isActive o = true → ∀ ref ∈ e.citations o, (∃ o', e.isStored o' = true ∧ o'.ref = ref) →
      ∃ o', e.isActive o' = true ∧ o'.ref = ref) ∧
    (∀ (order : SetOrder) (id reason : Given Text) (e' : Episode),
      e.retractProposition order id reason = .ok e' →
        ∃ x, id = .exact x ∧ e.isActive (.proposition x) = true ∧
          (∀ o, e'.isActive o = true → e.isActive o = true) ∧
          (∀ o, (e.isActive o = true ∧ ¬ e'.isActive o = true) ↔ e.DependsOn (.proposition x) o) ∧
          (e.NamedOnce → ∀ o, (e.isActive o = true ∧ ¬ e'.isActive o = true) ↔ e.isActive o = true ∧
            Reaches (fun o => e.isStored o = true) ObjectId.ref (fun o ref => ref ∈ e.citations o)
              (.proposition x) o)) ∧
    (∀ later : List Episode.Call,
      (∀ o, e.isStored o = true → ¬ e.isActive o = true → ¬ (e.after later).isActive o = true) ∧
      (∀ id p, e.propositions.get? id = some p → (e.after later).propositions.get? id = some p) ∧
      ∀ id r, e.relations.get? id = some r → (e.after later).relations.get? id = some r) ∧
    ∀ call : Episode.Call,
      (∀ err, call.perform e = .error err → call.apply e = e) ∧
      (call.apply e).events.length = e.events.length +
        ((call.apply e).storedObjects \ e.storedObjects).card +
        (e.activeObjects \ (call.apply e).activeObjects).card := by
  intro e
  have hcurrent : e.Current := Episode.current_after calls (Episode.current_new episodeId)
  refine ⟨fun o ho ref href hknown => ?_, fun order id reason e' h => ?_, fun later => ?_,
    fun call => ⟨fun err h => ?_, ?_⟩⟩
  · exact Episode.current_iff.1 (hcurrent o ho ref href (Episode.known_iff.2 hknown))
  · obtain ⟨x, hx, hretracts⟩ := Episode.retracts_of_ok h
    refine ⟨x, hx, hretracts.wasActive, hretracts.active, hretracts.dropped, fun hnamed o => ?_⟩
    rw [hretracts.dropped, Episode.dependsOn_of_named hcurrent hnamed hretracts.wasActive]
  · have hsucceeds := Episode.succeeds_after e later
    exact ⟨hsucceeds.inactive, hsucceeds.propositions, hsucceeds.relations⟩
  · rw [Episode.Call.apply, h]
  · exact Episode.length_events_apply e call

/-- In whatever order propositions are retracted, and their loops walk the sets, what stays active
is what depended on none of them before the first of the retractions. -/
theorem retractions_commute (e : Episode) (retractions : List (SetOrder × Text × Text)) (o : ObjectId) :
    (e.after (retractions.map fun r => .retractProposition r.1 (.exact r.2.1) (.exact r.2.2))).isActive o = true ↔
      e.isActive o = true ∧ ∀ r ∈ retractions, e.Retractable r.2.1 r.2.2 →
        ¬ e.DependsOn (.proposition r.2.1) o := by
  induction retractions generalizing e with
  | nil => simp [Episode.after]
  | cons r rs ih =>
    simp only [Episode.after, List.map_cons, List.foldl_cons] at ih ⊢
    rw [ih, List.forall_mem_cons]
    rcases Episode.retract_apply r.1 r.2.1 r.2.2 with ⟨heq, hnot⟩ | ⟨hr, hretracts⟩
    · rw [heq]
      exact and_congr_right fun _ => (and_iff_right fun hr => absurd hr hnot).symm
    · rw [imp_iff_right hr, hretracts.active_iff, and_assoc]
      refine and_congr_right fun ho => and_congr_right fun hn => forall₂_congr fun q _ => ?_
      simp only [Episode.Retractable, and_imp]
      exact forall₂_congr fun _ _ => hretracts.depends_iff (hretracts.active_iff.2 ⟨ho, hn⟩)

end VeraMono.Rezon
