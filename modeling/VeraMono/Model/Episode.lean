import VeraMono.Framework.Table
import VeraMono.Model.CanonicalJson
import Mathlib.Data.Finset.Image
import Mathlib.Data.Finset.Card

/-!
# Episodes

`epistemics.py` and `episode.py` of Rezon: propositions, relations, and the episode that holds
them. Which objects are active is kept in two sets, in no particular order: a loop over a set is
given the order.
-/

namespace VeraMono

open Framework

namespace Rezon

inductive PropositionKind
  | observation | evidence | claim | hypothesis | assumption | question | prediction | test | testResult | decision
  deriving DecidableEq

structure Proposition where
  propositionId : Text
  episodeId : Text
  kind : PropositionKind
  content : Text
  sourceRefs : List Text
  producerExecutionId : Option Text
  confidence : Option Rat
  sourceVersions : List Text
  deriving DecidableEq

structure Participant where
  refId : Text
  role : Text
  deriving DecidableEq

structure Hyperrelation where
  relationId : Text
  episodeId : Text
  relationType : Text
  participants : List Participant
  sourceRefs : List Text
  producerExecutionId : Option Text
  sourceVersions : List Text
  deriving DecidableEq

/-- A text that a literal is. -/
def lit (s : String) : Text := .valid s

/-- The texts one after another. -/
def cat (ts : List Text) : Text := Text.ofCodePoints (ts.flatMap Text.codePoints)

def isEmpty (t : Text) : Bool := t.codePoints = []

/-- None of the texts is empty. -/
def filled (ts : List Text) : Bool := ts.all fun t => ¬ isEmpty t

/-! ## Checks -/

inductive RezonErrorClass
  | episodeInvariantError | admissionError | valueError | unicodeEncodeError
  deriving DecidableEq

/-- An exception of Rezon, or of an encoding: its message, and the texts of the list the message
ends in. -/
structure RezonError where
  kind : RezonErrorClass
  message : Text
  refs : List Text
  deriving DecidableEq

/-- An argument that is of the types a check asks for, or fails it with a message. -/
inductive Given (α : Type)
  | exact (a : α)
  | malformed (message : String)

def Given.get {α : Type} (kind : RezonErrorClass) : Given α → Except RezonError α
  | .exact a => .ok a
  | .malformed message => .error ⟨kind, lit message, []⟩

def require (kind : RezonErrorClass) (c : Bool) (message : Text) (refs : List Text) : Except RezonError Unit :=
  if c then .ok () else .error ⟨kind, message, refs⟩

def requireThat (c : Bool) (message : String) : Except RezonError Unit :=
  require .episodeInvariantError c (lit message) []

/-- The list the message would end in is empty. -/
def requireNone (kind : RezonErrorClass) (refs : List Text) (message : String) : Except RezonError Unit :=
  require kind (refs = []) (lit message) refs

/-- `_require_exact_str_tuple`, of texts. -/
def requireFilled (values : List Text) (label : String) : Except RezonError Unit :=
  requireThat (filled values) s!"{label} must be a tuple of non-empty exact str values"

def validateProposition (p : Proposition) : Except RezonError Unit := do
  requireThat (¬ isEmpty p.propositionId && ¬ isEmpty p.episodeId && ¬ isEmpty p.content)
    "canonical proposition identity/content fields must be non-empty exact str"
  requireThat (p.producerExecutionId.all fun t => ¬ isEmpty t)
    "canonical proposition producer identity must be a non-empty exact str"
  requireFilled p.sourceRefs "canonical proposition source refs"
  requireFilled p.sourceVersions "canonical proposition source versions"

def validateRelation (r : Hyperrelation) : Except RezonError Unit := do
  requireThat (¬ isEmpty r.relationId && ¬ isEmpty r.episodeId && ¬ isEmpty r.relationType)
    "canonical relation identity/type fields must be non-empty exact str"
  requireThat (r.producerExecutionId.all fun t => ¬ isEmpty t)
    "canonical relation producer identity must be a non-empty exact str"
  requireFilled r.sourceRefs "canonical relation source refs"
  requireFilled r.sourceVersions "canonical relation source versions"
  requireThat (r.participants.all fun p => ¬ isEmpty p.refId && ¬ isEmpty p.role)
    "canonical participant identity/role fields must be non-empty exact str"

/-! ## Episodes -/

structure EpisodeEvent where
  eventId : Text
  episodeId : Text
  eventType : String
  targetId : Text
  reason : Option Text
  deriving DecidableEq

/-- An object is a proposition or a relation; one of each may have the same text as its id. -/
inductive ObjectId
  | proposition (id : Text)
  | relation (id : Text)
  deriving DecidableEq

/-- The text that names the object where it is cited. -/
def ObjectId.ref : ObjectId → Text
  | .proposition id | .relation id => id

/-- An episode. An active object is a stored one. -/
@[ext] structure Episode where
  episodeId : Text
  propositions : Table Proposition.propositionId
  relations : Table Hyperrelation.relationId
  activePropositions : Finset Text
  activeRelations : Finset Text
  events : List EpisodeEvent
  propositions_stored : ∀ id ∈ activePropositions, (propositions.get? id).isSome
  relations_stored : ∀ id ∈ activeRelations, (relations.get? id).isSome

namespace Episode

/-- `Episode(episode_id)`, of a text that is not empty. -/
def new (episodeId : Text) : Episode where
  episodeId
  propositions := .empty
  relations := .empty
  activePropositions := ∅
  activeRelations := ∅
  events := []
  propositions_stored := by simp
  relations_stored := by simp

/-- `_event`. -/
def record (e : Episode) (eventType : String) (targetId : Text) (reason : Option Text) : Episode :=
  { e with events := e.events ++
      [⟨cat [e.episodeId, lit s!":event:{e.events.length + 1}"], e.episodeId, eventType, targetId, reason⟩] }

/-- The object is in the episode, active or not. -/
def isStored (e : Episode) : ObjectId → Bool
  | .proposition id => (e.propositions.get? id).isSome
  | .relation id => (e.relations.get? id).isSome

def isActive (e : Episode) : ObjectId → Bool
  | .proposition id => id ∈ e.activePropositions
  | .relation id => id ∈ e.activeRelations

/-- What an object cites: its source references, and a relation its participants too. -/
def citations (e : Episode) : ObjectId → List Text
  | .proposition id => (e.propositions.get? id).elim [] Proposition.sourceRefs
  | .relation id => (e.relations.get? id).elim [] fun r => r.participants.map Participant.refId ++ r.sourceRefs

/-- The text is the id of an object. -/
def known (e : Episode) (ref : Text) : Bool := e.isStored (.proposition ref) || e.isStored (.relation ref)

/-- The text is the id of an active object. -/
def current (e : Episode) (ref : Text) : Bool := e.isActive (.proposition ref) || e.isActive (.relation ref)

def inactiveCanonicalSourceRefs (e : Episode) (sourceRefs : List Text) : List Text :=
  sourceRefs.filter fun ref => e.known ref && ¬ e.current ref

/-- A proposition under a new id, active. -/
def storeProposition (e : Episode) (p : Proposition) (hnew : e.propositions.get? p.propositionId = none) : Episode :=
  { e with
    propositions := e.propositions.insert p
    activePropositions := insert p.propositionId e.activePropositions
    propositions_stored := fun id hid => by
      by_cases h : id = p.propositionId
      · rw [h, Table.get?_insert_self hnew, Option.isSome_some]
      · rw [Table.get?_insert_other h]
        exact e.propositions_stored id (Finset.mem_of_mem_insert_of_ne hid h) }

def addProposition (e : Episode) (given : Given Proposition) : Except RezonError Episode := do
  let p ← given.get .episodeInvariantError
  validateProposition p
  requireThat (p.episodeId = e.episodeId) "proposition belongs to a different episode"
  requireNone .episodeInvariantError (e.inactiveCanonicalSourceRefs p.sourceRefs)
    "proposition references inactive canonical sources: "
  match hprevious : e.propositions.get? p.propositionId with
  | some previous =>
    requireThat (previous = p) "duplicate proposition ID has conflicting content"
    requireThat (p.propositionId ∈ e.activePropositions) "retracted proposition ID cannot be silently reactivated"
    return e
  | none => return (e.storeProposition p hprevious).record "proposition_added" p.propositionId none

/-- A relation under a new id, active. -/
def storeRelation (e : Episode) (r : Hyperrelation) (hnew : e.relations.get? r.relationId = none) : Episode :=
  { e with
    relations := e.relations.insert r
    activeRelations := insert r.relationId e.activeRelations
    relations_stored := fun id hid => by
      by_cases h : id = r.relationId
      · rw [h, Table.get?_insert_self hnew, Option.isSome_some]
      · rw [Table.get?_insert_other h]
        exact e.relations_stored id (Finset.mem_of_mem_insert_of_ne hid h) }

def addRelation (e : Episode) (given : Given Hyperrelation) : Except RezonError Episode := do
  let r ← given.get .episodeInvariantError
  validateRelation r
  requireThat (r.episodeId = e.episodeId) "relation belongs to a different episode"
  requireNone .episodeInvariantError ((r.participants.map Participant.refId).filter fun ref => ¬ e.current ref)
    "relation references inactive or unknown objects: "
  requireNone .episodeInvariantError (e.inactiveCanonicalSourceRefs r.sourceRefs)
    "relation references inactive canonical sources: "
  match hprevious : e.relations.get? r.relationId with
  | some previous =>
    requireThat (previous = r) "duplicate relation ID has conflicting content"
    requireThat (r.relationId ∈ e.activeRelations) "invalidated relation ID cannot be silently reactivated"
    return e
  | none => return (e.storeRelation r hprevious).record "relation_added" r.relationId none

/-! ## Retraction -/

/-- The object out of its set of active objects. -/
def drop (e : Episode) : ObjectId → Episode
  | .proposition id =>
    { e with
      activePropositions := e.activePropositions.erase id
      propositions_stored := fun _ h => e.propositions_stored _ (Finset.mem_of_mem_erase h) }
  | .relation id =>
    { e with
      activeRelations := e.activeRelations.erase id
      relations_stored := fun _ h => e.relations_stored _ (Finset.mem_of_mem_erase h) }

def storedObjects (e : Episode) : Finset ObjectId :=
  (e.propositions.rows.map fun p => ObjectId.proposition p.propositionId).toFinset ∪
    (e.relations.rows.map fun r => ObjectId.relation r.relationId).toFinset

def activeObjects (e : Episode) : Finset ObjectId :=
  e.activePropositions.image .proposition ∪ e.activeRelations.image .relation

@[simp] theorem isActive_proposition {e : Episode} {id : Text} :
    e.isActive (.proposition id) = true ↔ id ∈ e.activePropositions := decide_eq_true_iff

@[simp] theorem isActive_relation {e : Episode} {id : Text} :
    e.isActive (.relation id) = true ↔ id ∈ e.activeRelations := decide_eq_true_iff

variable {e : Episode} {o : ObjectId}

theorem isActive_drop {o o' : ObjectId} :
    (e.drop o).isActive o' = true ↔ e.isActive o' = true ∧ o' ≠ o := by
  cases o <;> cases o' <;> simp [drop, and_comm]

theorem mem_activeObjects : o ∈ e.activeObjects ↔ e.isActive o = true := by
  cases o <;> simp [activeObjects]

theorem activeObjects_drop : (e.drop o).activeObjects = e.activeObjects.erase o := by
  ext o'
  rw [Finset.mem_erase, mem_activeObjects, mem_activeObjects, isActive_drop, and_comm]

theorem card_drop (ho : e.isActive o = true) :
    (e.drop o).activeObjects.card + 1 = e.activeObjects.card := by
  rw [activeObjects_drop, Finset.card_erase_add_one (mem_activeObjects.2 ho)]

end Episode

structure SetOrder where
  enumerate : Nat → Finset Text → List Text
  nodup : ∀ n s, (enumerate n s).Nodup
  mem_enumerate : ∀ n s id, id ∈ enumerate n s ↔ id ∈ s

/-- What the loop of `retract_proposition` changes. -/
structure Invalidation where
  episode : Episode
  invalidatedRefs : List Text
  changed : Bool

namespace Invalidation

/-- A round of one of the inner loops: an active object that cites an invalidated one is
invalidated. -/
def visit (invalidated : String) (reason : Text) (st : Invalidation) (o : ObjectId) : Invalidation :=
  if (st.episode.citations o).any fun ref => ref ∈ st.invalidatedRefs then
    { episode := (st.episode.drop o).record invalidated o.ref (some reason)
      invalidatedRefs := o.ref :: st.invalidatedRefs
      changed := true }
  else st

variable (reason : Text) (order : SetOrder) (n : Nat)

/-- The loop over the active propositions. -/
def visitPropositions (st : Invalidation) : Invalidation :=
  ((order.enumerate n st.episode.activePropositions).map .proposition).foldl
    (visit "proposition_invalidated" reason) st

/-- The loop over the active relations. -/
def visitRelations (st : Invalidation) : Invalidation :=
  ((order.enumerate n st.episode.activeRelations).map .relation).foldl (visit "relation_invalidated" reason) st

/-- The body of the outer loop. -/
def pass (st : Invalidation) : Invalidation :=
  (({ st with changed := false } : Invalidation).visitPropositions reason order (2 * n)).visitRelations reason order
    (2 * n + 1)

theorem isActive_visit {invalidated : String} {st : Invalidation} {o o' : ObjectId}
    (h : st.episode.isActive o' = true) (hne : o' ≠ o) :
    (st.visit invalidated reason o).episode.isActive o' = true := by
  rw [visit]
  split
  · exact Episode.isActive_drop.2 ⟨h, hne⟩
  · exact h

/-- A loop over active objects that changes something leaves fewer of them. -/
theorem card_foldl_visit (invalidated : String) :
    ∀ (objects : List ObjectId) (st : Invalidation), objects.Nodup →
      (∀ o ∈ objects, st.episode.isActive o = true) →
      (objects.foldl (visit invalidated reason) st).episode.activeObjects.card ≤ st.episode.activeObjects.card ∧
        ((objects.foldl (visit invalidated reason) st).changed = true → st.changed = true ∨
          (objects.foldl (visit invalidated reason) st).episode.activeObjects.card < st.episode.activeObjects.card)
  | [], st, _, _ => ⟨Nat.le_refl _, .inl⟩
  | o :: objects, st, hnd, hactive => by
    rw [List.nodup_cons] at hnd
    have hrest (o' : ObjectId) (ho' : o' ∈ objects) : (st.visit invalidated reason o).episode.isActive o' = true :=
      isActive_visit reason (hactive o' (List.mem_cons_of_mem _ ho')) (fun h => hnd.1 (h ▸ ho'))
    obtain ⟨hle, hlt⟩ := card_foldl_visit invalidated objects (st.visit invalidated reason o) hnd.2 hrest
    rw [List.foldl_cons]
    by_cases hcites : ((st.episode.citations o).any fun ref => ref ∈ st.invalidatedRefs) = true
    · have hcard : (st.visit invalidated reason o).episode.activeObjects.card + 1 =
          st.episode.activeObjects.card := by
        rw [visit, if_pos hcites]
        exact Episode.card_drop (hactive o List.mem_cons_self)
      exact ⟨by omega, fun _ => .inr (by omega)⟩
    · have hvisit : st.visit invalidated reason o = st := if_neg hcites
      rw [hvisit] at hle hlt ⊢
      exact ⟨hle, hlt⟩

theorem nodup_propositions {s : Finset Text} : ((order.enumerate n s).map ObjectId.proposition).Nodup :=
  (order.nodup n s).map fun _ _ => ObjectId.proposition.inj

theorem nodup_relations {s : Finset Text} : ((order.enumerate n s).map ObjectId.relation).Nodup :=
  (order.nodup n s).map fun _ _ => ObjectId.relation.inj

variable {order n}

theorem isActive_enumerated_proposition {e : Episode} {o : ObjectId}
    (ho : o ∈ (order.enumerate n e.activePropositions).map ObjectId.proposition) : e.isActive o = true := by
  obtain ⟨id, hid, rfl⟩ := List.mem_map.1 ho
  exact decide_eq_true ((order.mem_enumerate n _ id).1 hid)

theorem isActive_enumerated_relation {e : Episode} {o : ObjectId}
    (ho : o ∈ (order.enumerate n e.activeRelations).map ObjectId.relation) : e.isActive o = true := by
  obtain ⟨id, hid, rfl⟩ := List.mem_map.1 ho
  exact decide_eq_true ((order.mem_enumerate n _ id).1 hid)

theorem card_pass {st : Invalidation} (h : (st.pass reason order n).changed = true) :
    (st.pass reason order n).episode.activeObjects.card < st.episode.activeObjects.card := by
  obtain ⟨hle, hlt⟩ := card_foldl_visit reason "proposition_invalidated" _
    { st with changed := false } (nodup_propositions order (2 * n)) fun _ => isActive_enumerated_proposition
  obtain ⟨hle', hlt'⟩ := card_foldl_visit reason "relation_invalidated" _
    (({ st with changed := false } : Invalidation).visitPropositions reason order (2 * n))
    (nodup_relations order (2 * n + 1)) fun _ => isActive_enumerated_relation
  rcases hlt' h with hchanged | hlt'
  · rcases hlt hchanged with hfalse | hlt
    · exact absurd hfalse Bool.false_ne_true
    · exact Nat.lt_of_le_of_lt hle' hlt
  · exact Nat.lt_of_lt_of_le hlt' hle

/-- The outer loop: another pass as long as the last one changed something. -/
def run (reason : Text) (order : SetOrder) (n : Nat) (st : Invalidation) : Invalidation :=
  if (st.pass reason order n).changed = true then run reason order (n + 1) (st.pass reason order n)
  else st.pass reason order n
termination_by st.episode.activeObjects.card
decreasing_by exact card_pass reason ‹_›

end Invalidation

def Episode.retractProposition (order : SetOrder) (e : Episode) (propositionId reason : Given Text) :
    Except RezonError Episode := do
  let x ← propositionId.get .episodeInvariantError
  requireThat (¬ isEmpty x) "proposition_id must be a non-empty exact str"
  let why ← reason.get .episodeInvariantError
  requireThat (¬ isEmpty why) "retraction reason must be a non-empty exact str"
  requireThat (e.isStored (.proposition x)) "cannot retract unknown proposition"
  requireThat (e.isActive (.proposition x)) "proposition is already retracted"
  let retracted := (e.drop (.proposition x)).record "proposition_retracted" x (some why)
  return (Invalidation.run (cat [lit "dependency_retracted:", x]) order 0 ⟨retracted, [x], false⟩).episode

/-! ## Snapshots -/

structure EpisodeSnapshot where
  episodeId : Text
  version : Nat
  currentPropositions : List Proposition
  allPropositions : List Proposition
  currentRelations : List Hyperrelation
  allRelations : List Hyperrelation
  events : List EpisodeEvent
  deriving DecidableEq

def EpisodeSnapshot.versionRef (s : EpisodeSnapshot) : Text := cat [s.episodeId, lit s!"@{s.version}"]

def Episode.snapshot (e : Episode) : EpisodeSnapshot where
  episodeId := e.episodeId
  version := e.events.length
  currentPropositions := e.propositions.rows.filter fun p => p.propositionId ∈ e.activePropositions
  allPropositions := e.propositions.rows
  currentRelations := e.relations.rows.filter fun r => r.relationId ∈ e.activeRelations
  allRelations := e.relations.rows
  events := e.events

end Rezon

end VeraMono
