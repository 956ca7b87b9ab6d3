import Mathlib.Order.Defs.Unbundled
import VeraMono.Model.BusCommands
import VeraMono.Proof.CoordinationRepository

/-!
# The steps of a command

What the steps of a command do to the state (`Always`): until it appends, a command only
looks (`Silent`), and once it has a result it asks the host for the time of the receipt
and for nothing else (`Asks`). Evidence that was checked in one role passes in another, so
nothing but the host can raise then (`wrapResult_eq`).
-/

namespace VeraMono

open Framework

variable {D α β : Type}

/-! ## Steps that only look -/

namespace Bus

/-- Nothing was appended by this process, and the receipt time was not asked for. -/
structure Keeps (s s' : BusState D) : Prop where
  written : s'.written = s.written
  asked : s'.asked = s.asked
  verified : s'.verified "receipt_time" = s.verified "receipt_time"

instance : IsPreorder (BusState D) Keeps where
  refl _ := ⟨rfl, rfl, rfl⟩
  trans _ _ _ h h' := ⟨h'.written.trans h.written, h'.asked.trans h.asked, h'.verified.trans h.verified⟩

/-- What a step does to every state. -/
def Always (P : BusState D → BusState D → Prop) (x : Bus D α) : Prop := ∀ s, P s (x s).2

/-- A step that only looks. -/
abbrev Silent (x : Bus D α) : Prop := Always Keeps x

theorem bind_of_ok {x : Bus D α} {f : α → Bus D β} {s s' : BusState D} {a : α} (h : x s = (.ok a, s')) :
    (x >>= f) s = f a s' := by
  change Bus.bind x f s = _
  rw [Bus.bind, h]

theorem bind_of_error {x : Bus D α} {f : α → Bus D β} {s s' : BusState D} {e : BusException}
    (h : x s = (.error e, s')) : (x >>= f) s = (.error e, s') := by
  change Bus.bind x f s = _
  rw [Bus.bind, h]

theorem tryCatch_of_ok {x : Bus D α} {handle : BusException → Bus D α} {s s' : BusState D} {a : α}
    (h : x s = (.ok a, s')) : (tryCatch x handle : Bus D α) s = (.ok a, s') := by
  change Bus.tryCatch x handle s = _
  rw [Bus.tryCatch, h]

theorem tryCatch_of_error {x : Bus D α} {handle : BusException → Bus D α} {s s' : BusState D}
    {e : BusException} (h : x s = (.error e, s')) : (tryCatch x handle : Bus D α) s = handle e s' := by
  change Bus.tryCatch x handle s = _
  rw [Bus.tryCatch, h]

theorem lift_ok {r : Except Failure α} {a : α} (h : r = .ok a) (s : BusState D) :
    (Bus.lift r : Bus D α) s = (.ok a, s) := by
  rw [Bus.lift, h]
  rfl

theorem bind_eq_ok_iff {x : Bus D α} {f : α → Bus D β} {s s' : BusState D} {b : β} :
    (x >>= f) s = (.ok b, s') ↔ ∃ a t, x s = (.ok a, t) ∧ f a t = (.ok b, s') := by
  cases h : x s with
  | mk r t =>
    cases r with
    | ok a =>
      rw [bind_of_ok h]
      exact ⟨fun h' => ⟨a, t, rfl, h'⟩, fun ⟨_, _, heq, h'⟩ => (by cases heq; exact h')⟩
    | error e =>
      rw [bind_of_error h]
      exact ⟨fun h' => (by cases h'), fun ⟨_, _, heq, _⟩ => (by cases heq)⟩

theorem ite_throw_eq_ok {c : Prop} [Decidable c] {e : BusException} {f : Unit → Bus D α} {x : Bus D α}
    {s s' : BusState D} {a : α} :
    (if c then MonadExcept.throw e >>= f else x) s = (.ok a, s') ↔ ¬c ∧ x s = (.ok a, s') := by
  by_cases hc : c
  · rw [if_pos hc]
    exact ⟨fun h => (by cases h), fun h => absurd hc h.1⟩
  · rw [if_neg hc]
    exact ⟨fun h => ⟨hc, h⟩, fun h => h.2⟩

theorem bind_assoc {γ : Type} {x : Bus D α} {f : α → Bus D β} {g : β → Bus D γ} :
    (x >>= f) >>= g = x >>= fun a => f a >>= g := by
  funext s
  cases h : x s with
  | mk r t =>
    cases r with
    | ok a =>
      rw [bind_of_ok h]
      cases hf : f a t with
      | mk r' t' =>
        cases r' with
        | ok b => rw [bind_of_ok hf, bind_of_ok ((bind_of_ok h).trans hf)]
        | error e => rw [bind_of_error hf, bind_of_error ((bind_of_ok h).trans hf)]
    | error e => rw [bind_of_error h, bind_of_error (bind_of_error h)]

theorem raise_bind {e : BusException} {f : α → Bus D β} :
    (MonadExcept.throw e : Bus D α) >>= f = MonadExcept.throw e := funext fun _ => bind_of_error rfl

namespace Always

variable {P : BusState D → BusState D → Prop} [IsPreorder (BusState D) P] {x y : Bus D α} {f : α → Bus D β}
  {c : Prop} [Decidable c] {e : BusException}

theorem pure {a : α} : Always P (Pure.pure a : Bus D α) := refl_of P

theorem throw : Always P (MonadExcept.throw e : Bus D α) := refl_of P

theorem lift {r : Except Failure α} : Always P (Bus.lift r : Bus D α) := refl_of P

theorem bind (hx : Always P x) (hf : ∀ a, Always P (f a)) : Always P (x >>= f) := by
  intro s
  have hs := hx s
  cases h : x s with
  | mk r s' =>
    rw [h] at hs
    cases r with
    | ok a =>
      rw [bind_of_ok h]
      exact trans_of P hs (hf a s')
    | error e =>
      rw [bind_of_error h]
      exact hs

omit [IsPreorder (BusState D) P] in
theorem ite (hx : Always P x) (hy : Always P y) : Always P (if c then x else y) := by
  split
  · exact hx
  · exact hy

theorem tryCatch {handle : BusException → Bus D α} {s : BusState D} (hs : P s (x s).2)
    (hh : ∀ e, Always P (handle e)) : P s ((MonadExcept.tryCatch x handle : Bus D α) s).2 := by
  cases h : x s with
  | mk r s' =>
    rw [h] at hs
    cases r with
    | ok a =>
      rw [tryCatch_of_ok h]
      exact hs
    | error e =>
      rw [tryCatch_of_error h]
      exact trans_of P hs (hh e s')

theorem guard {f : Unit → Bus D α} (hy : Always P y) : Always P (if c then MonadExcept.throw e >>= f else y) :=
  ite (refl_of P) hy

theorem check : Always P (if c then MonadExcept.throw e else Pure.pure () : Bus D Unit) := ite throw pure

end Always

end Bus

open Bus

def MayAsk (P : BusState D → BusState D → Prop) (role : String) : Prop :=
  ∀ s n, P s { s with verified := Function.update s.verified role n }

theorem mayAsk_keeps {role : String} (hrole : role ≠ "receipt_time") : MayAsk (D := D) Keeps role := fun _ _ =>
  ⟨rfl, rfl, Function.update_of_ne hrole.symm _ _⟩

/-- The repository may be queried. -/
class Looks [DecidableEq D] (K : BusHashing D) (py : Stdlib) (P : BusState D → BusState D → Prop) : Prop where
  interleave : ∀ s, P s (interleave K py s)

section Queries
variable [DecidableEq D] {K : BusHashing D} {py : Stdlib} {P : BusState D → BusState D → Prop} [Looks K py P]

instance : Looks K py (Keeps (D := D)) := ⟨fun _ => ⟨rfl, rfl, rfl⟩⟩

theorem select_always {f : SQLiteCoordinationRepository D → Except Failure α} :
    Always P (SQLiteCoordinationRepository.select K py f) := fun s => Looks.interleave (K := K) s

variable [IsPreorder (BusState D) P]

theorem checkIntegrity_always : Always P (SQLiteCoordinationRepository.checkIntegrity K py) :=
  .bind select_always fun _ => .bind select_always fun _ => .bind .lift fun _ => .pure

theorem get_always {eventId : String} : Always P (SQLiteCoordinationRepository.get K py eventId) :=
  .bind checkIntegrity_always fun _ => select_always

theorem listThread_always {threadKey : String} :
    Always P (SQLiteCoordinationRepository.listThread K py threadKey) :=
  .bind checkIntegrity_always fun _ => select_always

theorem readInbox_always {target : String} {after : Int} {limit : Nat} {includeAcknowledged : Bool} :
    Always P (SQLiteCoordinationRepository.readInbox K py target after limit includeAcknowledged) :=
  .bind checkIntegrity_always fun _ => select_always

end Queries

section Checks
variable {R : BusRuntime D} {host : BusHost} {actor : ActorContext} {draft : CoordinationEventDraft}
  {P : BusState D → BusState D → Prop}

section
variable [IsPreorder (BusState D) P]

theorem validate_always : Always P (actor.validate R) := .bind .lift fun _ => .check

theorem require_always {permission : String} :
    Always P (actor.require R permission) := .bind validate_always fun _ => .check

theorem evidencedTime_always {value : Option TemporalEvidence} {role : String} :
    Always P (evidencedTime R value role) := .bind .lift fun _ => .pure

theorem verifiedClaim_always {value : TemporalEvidenceInput} {role subject : String}
    (hrole : MayAsk P role) : Always P (verifiedClaim R host value role subject) := by
  cases value with
  | none => exact .pure
  | other => exact .throw
  | evidence evidence => exact .bind .lift fun _ => .guard .pure
  | envelope envelope =>
    unfold verifiedClaim
    cases host.evidenceVerifier with
    | none => exact .throw
    | some verify => exact .bind (fun s => hrole s _) fun _ => .guard .pure

theorem addressedTarget_always {event : SequencedEvent} : Always P (addressedTarget (D := D) actor event) := .check

theorem resolutionTarget_always {event : SequencedEvent} : Always P (resolutionTarget (D := D) actor event) :=
  .guard (.ite .pure .pure)

theorem decisionSubject_always {workstream : String} : Always P (decisionSubject R workstream draft) :=
  .bind .lift fun _ => .bind .lift fun _ => .guard (.guard (.bind .lift fun _ => .guard .pure))

theorem verifyDecisionAuthority_always {value : DecisionAuthorityInput} {workstream : String} :
    Always P (verifyDecisionAuthority R host value workstream draft) := by
  cases value with
  | none => exact .throw
  | envelope =>
    unfold verifyDecisionAuthority
    cases host.decisionAuthorityVerifier with
    | none => exact .throw
    | some verify =>
      refine .bind decisionSubject_always fun subject => ?_
      rcases verify subject with e | _ | _
      · exact .throw
      · exact .throw
      · exact .pure

theorem acknowledgementSubject_always {args : AcknowledgeArgs} {workstream threadKey : String} :
    Always P (acknowledgementSubject R args workstream threadKey) :=
  .bind .lift fun _ => .bind .lift fun _ => .guard .pure

theorem acknowledgementPayload_always {payload : OptionalMapping} {a c : TemporalEvidence} :
    Always P (acknowledgementPayload (D := D) payload a c) := .guard .pure

theorem exitCheckpointSubject_always {args : ExitCheckpointArgs} :
    Always P (exitCheckpointSubject R actor args) := .bind .lift fun _ => .guard .pure

theorem makeResult_always {operation : BusOperation} {resultClass : ResultClass}
    {events : List SequencedEvent} {confirmed : Bool} {thread target ack error : Option String}
    {limitations : List String} :
    Always P (makeResult R operation resultClass actor events confirmed thread target ack limitations error) :=
  .guard .pure

end

variable [DecidableEq D] [IsPreorder (BusState D) P] [Looks R.hashing R.py P]

theorem busEvent_always {eventId : String} : Always P (busEvent R eventId) := by
  refine .bind .lift fun _ => .bind get_always fun event => ?_
  cases event with
  | none => exact .throw
  | some event => exact .pure

theorem checkDraftLineage_always : Always P (checkDraftLineage R draft) := by
  unfold checkDraftLineage
  cases truthy draft.supersedesEventId with
  | none =>
    cases truthy draft.acknowledgesEventId with
    | none => exact .pure
    | some eventId => exact .bind busEvent_always fun _ => .guard (.guard .pure)
  | some priorId =>
    cases truthy draft.acknowledgesEventId with
    | none => exact .bind busEvent_always fun _ => .guard (.bind listThread_always fun _ => .check)
    | some eventId =>
      exact .bind busEvent_always fun _ => .guard (.guard
        (.bind busEvent_always fun _ => .guard (.bind listThread_always fun _ => .check)))

theorem checkAppend_always : Always P (checkAppend R actor draft) :=
  .bind validate_always fun _ => .bind .lift fun _ => .guard checkDraftLineage_always

theorem authorizeGenericPost_always : Always P (authorizeGenericPost R actor draft) := by
  refine .bind .lift fun _ => .ite ?_ (.ite ?_ (.ite ?_ (.ite .throw require_always)))
  · exact .bind require_always fun _ => .bind busEvent_always fun _ =>
      .bind addressedTarget_always fun _ => .check
  · exact .bind require_always fun _ => .bind busEvent_always fun _ =>
      .bind addressedTarget_always fun _ => .check
  · exact .bind require_always fun _ => .bind busEvent_always fun _ =>
      .bind resolutionTarget_always fun _ => .check
end Checks

/-! ## Evidence that was checked before -/

section Evidence
variable {R : BusRuntime D} {e : TemporalEvidence} {role role' : String}

theorem awareTime_ok {value name : String} {time : Rat} :
    awareTime R value name = .ok time ↔ R.aware value = .instant time := by
  unfold awareTime
  cases R.aware value <;> simp

theorem checkBounds_role {value : Rat} (h : e.checkBounds R role value = .ok ()) :
    e.checkBounds R role' value = .ok () := by
  unfold TemporalEvidence.checkBounds at h ⊢
  split at h
  · simp only [bind_eq_ok, awareTime_ok] at h ⊢
    exact h
  · cases h

/-- The role of evidence matters for its messages only, unless it is that of a record time. -/
theorem validate_role (hrole : role ≠ "record_time")
    (h : e.validate R role = .ok ()) : e.validate R role' = .ok () := by
  simp only [TemporalEvidence.validate, bind_eq_ok, ite_error_ok, ↓throw_bind] at h ⊢
  obtain ⟨hprec, _, hsource, hmodel, hrecord, h⟩ := h
  refine ⟨hprec, (), hsource, hmodel, fun hr => hrecord ⟨hrole, hr.2⟩, ?_⟩
  by_cases hunknown : e.precision = "UNKNOWN"
  · rw [if_pos hunknown] at h ⊢
    exact h
  · rw [if_neg hunknown] at h ⊢
    simp only [bind_eq_ok, ite_error_ok] at h ⊢
    obtain ⟨hverified, _, hreference, h⟩ := h
    refine ⟨hverified, (), hreference, ?_⟩
    cases hv : e.value with
    | none =>
      rw [hv] at h
      cases h
    | some value =>
      simp only [hv, bind_eq_ok, awareTime_ok] at h ⊢
      obtain ⟨time, htime, h⟩ := h
      refine ⟨time, htime, ?_⟩
      by_cases hbounded : e.precision = "BOUNDED"
      · rw [if_pos hbounded] at h ⊢
        exact checkBounds_role h
      · rw [if_neg hbounded] at h ⊢
        exact h

/-- Evidence that passes in the roles a receipt has. -/
def TemporalEvidence.Valid (R : BusRuntime D) (e : TemporalEvidence) : Prop := e.validate R "event_time" = .ok ()

theorem unknown_valid : (TemporalEvidence.unknown "UNAVAILABLE").Valid R := by
  have htext : validateText "UNAVAILABLE" "temporal source" = .ok () := by decide +kernel
  simp [TemporalEvidence.Valid, TemporalEvidence.validate, TemporalEvidence.unknown, temporalPrecisions,
    recordTimeSources, htext]

theorem evidencedTime_ok {value : Option TemporalEvidence} (h : ∀ v, value = some v → v.Valid R)
    (s : BusState D) :
    evidencedTime R value role s = (.ok (value.getD (.unknown "UNAVAILABLE")), s) := by
  have hvalid : (value.getD (.unknown "UNAVAILABLE")).Valid R := by
    cases value with
    | none => exact unknown_valid
    | some v => exact h v rfl
  exact bind_of_ok (lift_ok (validate_role (by decide) hvalid) s)

theorem evidencedTime_valid {value : Option TemporalEvidence} {t : TemporalEvidence} {s s' : BusState D}
    (hrole : role ≠ "record_time") (h : evidencedTime R value role s = (.ok t, s')) : t.Valid R := by
  cases hv : (value.getD (.unknown "UNAVAILABLE")).validate R role with
  | error e =>
    have herr : Bus.lift ((value.getD (.unknown "UNAVAILABLE")).validate R role) s =
        ((.error e.toBus, s) : Except BusException Unit × BusState D) := by
      rw [Bus.lift, hv]
      rfl
    rw [evidencedTime, bind_of_error herr] at h
    cases h
  | ok u =>
    rw [evidencedTime, bind_of_ok (lift_ok hv s)] at h
    cases h
    exact validate_role hrole hv

end Evidence

/-! ## The time of a receipt -/

section Receipts
variable {R : BusRuntime D} {host : BusHost} {actor : ActorContext} {base : CoordinationResult}
  {times : GivenTimes} {paging : Paging} {extra : List String} {s s' : BusState D}

/-- Asked about the receipt of a result, the host raises an exception that the step does not
handle itself. -/
def ReceiptTimeRaises (R : BusRuntime D) (host : BusHost) (base : CoordinationResult) (s : BusState D) : Prop :=
  ∃ provide, host.receiptTimeProvider = some provide ∧ ∃ e,
    (claimReceiptTime R host provide (R.subjectHash (.receipt base.receipt)) s).1 = .error e ∧
      e.contained = false

/-- The host was asked as often in both states. -/
structure Agrees (s s' : BusState D) : Prop where
  asked : s'.asked = s.asked
  verified : s'.verified "receipt_time" = s.verified "receipt_time"

theorem Bus.Keeps.agrees (h : Keeps s s') : Agrees s s' := ⟨h.asked, h.verified⟩

/-- What a step returns depends on what the host answers alone, and the step appends nothing. -/
structure Asks (x : Bus D α) : Prop where
  same : ∀ s s', Agrees s s' → (x s').1 = (x s).1 ∧ Agrees (x s).2 (x s').2
  frame : ∀ s, (x s).2.written = s.written ∧ (x s).2.log = s.log

namespace Asks

variable {x y : Bus D α} {f : α → Bus D β}

theorem pure {a : α} : Asks (Pure.pure a : Bus D α) := ⟨fun _ _ h => ⟨rfl, h⟩, fun _ => ⟨rfl, rfl⟩⟩

theorem throw {e : BusException} : Asks (MonadExcept.throw e : Bus D α) :=
  ⟨fun _ _ h => ⟨rfl, h⟩, fun _ => ⟨rfl, rfl⟩⟩

theorem lift {r : Except Failure α} : Asks (Bus.lift r : Bus D α) :=
  ⟨fun _ _ h => ⟨rfl, h⟩, fun _ => ⟨rfl, rfl⟩⟩

theorem bind (hx : Asks x) (hf : ∀ a, Asks (f a)) : Asks (x >>= f) := by
  constructor
  · intro s s' h
    obtain ⟨hr, ha⟩ := hx.same s s' h
    cases hxs : x s with
    | mk r t =>
      cases hxs' : x s' with
      | mk r' t' =>
        rw [hxs, hxs'] at hr ha
        obtain rfl : r' = r := hr
        cases r' with
        | ok a =>
          rw [bind_of_ok hxs, bind_of_ok hxs']
          exact (hf a).same t t' ha
        | error e =>
          rw [bind_of_error hxs, bind_of_error hxs']
          exact ⟨rfl, ha⟩
  · intro s
    have hw := hx.frame s
    cases hxs : x s with
    | mk r t =>
      rw [hxs] at hw
      cases r with
      | ok a =>
        rw [bind_of_ok hxs]
        exact ⟨((hf a).frame t).1.trans hw.1, ((hf a).frame t).2.trans hw.2⟩
      | error e =>
        rw [bind_of_error hxs]
        exact hw

theorem ite {c : Prop} [Decidable c] (hx : Asks x) (hy : Asks y) : Asks (if c then x else y) := by
  split
  · exact hx
  · exact hy

theorem guard {c : Prop} [Decidable c] {e : BusException} {g : Unit → Bus D α} (hy : Asks y) :
    Asks (if c then MonadExcept.throw e >>= g else y) :=
  ite ⟨fun _ _ h => ⟨rfl, h⟩, fun _ => ⟨rfl, rfl⟩⟩ hy

end Asks

theorem askProvider_asks {provide : String → Nat → Except BusException TemporalEvidenceInput}
    {subject : String} : Asks (askProvider (D := D) provide subject) where
  same s s' h := ⟨by rw [askProvider, askProvider, h.asked],
    congrArg (· + 1) h.asked, h.verified⟩
  frame _ := ⟨rfl, rfl⟩

theorem askVerifier_asks {verify : String → String → Nat → Except BusException Bool} {subject : String} :
    Asks (askVerifier (D := D) verify "receipt_time" subject) where
  same s s' h := by
    refine ⟨by rw [askVerifier, askVerifier, h.verified], h.asked, ?_⟩
    simp only [askVerifier, Function.update_self, h.verified]
  frame _ := ⟨rfl, rfl⟩

theorem claimReceiptTime_asks {provide : String → Nat → Except BusException TemporalEvidenceInput}
    {subject : String} : Asks (claimReceiptTime R host provide subject) := by
  refine .bind askProvider_asks fun candidate => .bind ?_ fun _ => .pure
  cases candidate with
  | none => exact .pure
  | other => exact .throw
  | evidence evidence => exact .bind .lift fun _ => .guard .pure
  | envelope envelope =>
    unfold verifiedClaim
    cases host.evidenceVerifier with
    | none => exact .throw
    | some verify => exact .bind askVerifier_asks fun _ => .guard .pure

theorem ReceiptTimeRaises.agrees (h : Agrees s s') :
    ReceiptTimeRaises R host base s' ↔ ReceiptTimeRaises R host base s := by
  have hsame provide subject : (claimReceiptTime R host provide subject s').1 =
      (claimReceiptTime R host provide subject s).1 :=
    (claimReceiptTime_asks.same s s' h).1
  simp only [ReceiptTimeRaises, hsame]

/-! ## Wrapping a result -/

/-- The times a caller passes were checked. -/
structure GivenTimes.Valid (R : BusRuntime D) (times : GivenTimes) : Prop where
  entry : ∀ e, times.entryTime = some e → e.Valid R
  retrieval : ∀ e, times.retrievalTime = some e → e.Valid R
  event : ∀ e, times.eventTime = some e → e.Valid R
  state : ∀ e, times.stateTime = some e → e.Valid R

theorem GivenTimes.Valid.none : GivenTimes.none.Valid R :=
  ⟨fun _ h => (by cases h), fun _ h => (by cases h), fun _ h => (by cases h), fun _ h => (by cases h)⟩

theorem GivenTimes.Valid.event_state {event state : TemporalEvidence} (he : event.Valid R) (hs : state.Valid R) :
    { GivenTimes.none with eventTime := some event, stateTime := some state }.Valid R :=
  ⟨fun _ h => (by cases h), fun _ h => (by cases h), fun _ h => (by cases h; exact he),
    fun _ h => (by cases h; exact hs)⟩

theorem wrapTemporal_eq (ht : times.Valid R) (s : BusState D) :
    ∃ r : TemporalCoordinationResult, wrapTemporal R base times paging extra s = (.ok r, s) ∧
      r.receipt.base = base.receipt ∧ r.receipt.paging = paging ∧ r.events = base.events := by
  rw [wrapTemporal, bind_of_ok (evidencedTime_ok ht.entry s), bind_of_ok (evidencedTime_ok ht.retrieval s),
    bind_of_ok (evidencedTime_ok ht.event s), bind_of_ok (evidencedTime_ok ht.state s)]
  exact ⟨_, rfl, rfl, rfl, rfl⟩

/-- The receipt time step appends nothing, and raises what it does not handle. -/
theorem receiptTime_eq (R : BusRuntime D) (host : BusHost)
    (provide : String → Nat → Except BusException TemporalEvidenceInput) (subject : String)
    (s : BusState D) : ∃ s', s'.written = s.written ∧ s'.log = s.log ∧
      ((∃ e, (claimReceiptTime R host provide subject s).1 = .error e ∧ e.contained = false ∧
          receiptTime R host provide subject s = (.error e, s')) ∨
        ((¬ ∃ e, (claimReceiptTime R host provide subject s).1 = .error e ∧ e.contained = false) ∧
          ∃ t, receiptTime R host provide subject s = (.ok t, s'))) := by
  have hw := (claimReceiptTime_asks : Asks (claimReceiptTime R host provide subject)).frame s
  cases h : claimReceiptTime R host provide subject s with
  | mk r s' =>
    rw [h] at hw
    refine ⟨s', hw.1, hw.2, ?_⟩
    cases r with
    | ok t => exact .inr ⟨fun ⟨e, he, _⟩ => (by cases he), t, by rw [receiptTime, tryCatch_of_ok h]⟩
    | error e =>
      rw [receiptTime, tryCatch_of_error h]
      cases hc : e.contained with
      | true =>
        exact .inr ⟨fun ⟨e', he, hf⟩ => (by cases he; rw [hc] at hf; cases hf),
          .unknown "UNVERIFIED_RECEIPT_TIME_REJECTED", rfl⟩
      | false => exact .inl ⟨e, rfl, hc, rfl⟩

/-- A result with checked times is wrapped, unless the host raises. -/
theorem wrapResult_eq (host : BusHost) (base : CoordinationResult) (paging : Paging) (extra : List String)
    (ht : times.Valid R) (s : BusState D) : ∃ s', s'.written = s.written ∧ s'.log = s.log ∧
    ((ReceiptTimeRaises R host base s ∧ ∃ e, wrapResult R host base times paging extra s = (.error e, s')) ∨
      (¬ ReceiptTimeRaises R host base s ∧ ∃ r, wrapResult R host base times paging extra s = (.ok r, s') ∧
        r.receipt.base = base.receipt ∧ r.receipt.paging = paging ∧ r.events = base.events)) := by
  obtain ⟨r, hwrap, hr⟩ : ∃ r, wrapTemporal R base times paging extra s = (.ok r, s) ∧
      r.receipt.base = base.receipt ∧ r.receipt.paging = paging ∧ r.events = base.events := wrapTemporal_eq ht s
  rw [wrapResult, bind_of_ok hwrap]
  cases hp : host.receiptTimeProvider with
  | none =>
    exact ⟨s, rfl, rfl, .inr ⟨fun ⟨provide, h, _⟩ => (by rw [hp] at h; cases h), r, rfl, hr⟩⟩
  | some provide =>
    obtain ⟨s', hw, hl, ⟨e, he, hc, hraise⟩ | ⟨hnot, t, hok⟩⟩ :=
      receiptTime_eq R host provide (R.subjectHash (.receipt base.receipt)) s
    · exact ⟨s', hw, hl, .inl ⟨⟨provide, hp, e, he, hc⟩, e, bind_of_error hraise⟩⟩
    · refine ⟨s', hw, hl, .inr ⟨?_, _, bind_of_ok hok, hr⟩⟩
      rintro ⟨provide', hp', h⟩
      rw [hp, Option.some.injEq] at hp'
      exact hnot (hp' ▸ h)

/-- The host may be asked for the time of a receipt. -/
class Waits (P : BusState D → BusState D → Prop) : Prop where
  ask : ∀ role, MayAsk P role
  wait : ∀ s n, P s { s with asked := n }

section Waits
variable {P : BusState D → BusState D → Prop} [IsPreorder (BusState D) P] [Waits P]

theorem wrapResult_always : Always P (wrapResult R host base times paging extra) := by
  refine .bind (.bind evidencedTime_always fun _ => .bind evidencedTime_always fun _ =>
    .bind evidencedTime_always fun _ => .bind evidencedTime_always fun _ => .pure) fun wrapped => ?_
  cases host.receiptTimeProvider with
  | none => exact .pure
  | some provide =>
    have hclaim {subject : String} : Always P (claimReceiptTime R host provide subject) :=
      .bind (fun s => Waits.wait s _) fun _ => .bind (verifiedClaim_always (Waits.ask _)) fun _ => .pure
    exact .bind (fun s => Always.tryCatch (hclaim s) fun e => .ite .pure .throw) fun _ => .pure

theorem receipted_always {operation : BusOperation} {context : FailureContext}
    {function : Bus D TemporalCoordinationResult} {s : BusState D} (h : P s (function s).2) :
    P s (receipted R host operation actor context function s).2 := by
  refine Always.tryCatch h fun e => ?_
  cases e.kind.resultClass with
  | none => exact .throw
  | some resultClass => exact .bind makeResult_always fun _ => wrapResult_always

variable [DecidableEq D] [Looks R.hashing R.py P]

theorem coordinationReadInbox_always {args : ReadInboxArgs} :
    Always P (coordinationReadInbox R host actor args) := fun s =>
  receipted_always (Always.bind validate_always (fun _ => .bind .lift fun _ => .bind require_always fun _ =>
    .guard (.guard (.bind readInbox_always fun _ => .bind (.guard .pure) fun _ => wrapResult_always))) s)

end Waits

variable {resultClass : ResultClass} {operation : BusOperation}

theorem makeResult_eq {events : List SequencedEvent}
    {confirmed : Bool} {thread target ack error : Option String} {limitations : List String}
    (h : R.encodesResult events = true) (s : BusState D) :
    ∃ base, makeResult R operation resultClass actor events confirmed thread target ack limitations error s =
      (.ok base, s) ∧ base.receipt.databaseWriteConfirmed = confirmed := by
  simp only [makeResult, h, not_true_eq_false, if_false]
  exact ⟨_, rfl, rfl⟩

theorem makeResult_denies
    {thread target ack error : Option String} {limitations : List String} (s : BusState D) :
    (makeResult R operation resultClass actor [] false thread target ack limitations error s).2.written =
        s.written ∧
      ∀ base, (makeResult R operation resultClass actor [] false thread target ack limitations error s).1 =
        .ok base → base.receipt.databaseWriteConfirmed = false := by
  obtain ⟨base, hmake, hbase⟩ := makeResult_eq R.encodesResult_nil s
  rw [hmake]
  exact ⟨rfl, fun base' h => by cases h; exact hbase⟩

/-- The receipt of a failure says so and has no page, if it is made at all. -/
theorem failureResult_denies {context : FailureContext}
    {error : BusException} (s : BusState D) :
    (failureResult R host operation actor context resultClass error s).2.written = s.written ∧
      (failureResult R host operation actor context resultClass error s).2.log = s.log ∧
      ∀ r, (failureResult R host operation actor context resultClass error s).1 = .ok r →
        r.receipt.base.databaseWriteConfirmed = false ∧ r.receipt.paging = .none := by
  obtain ⟨base, hmake, hbase⟩ := makeResult_eq R.encodesResult_nil s
  rw [failureResult, bind_of_ok hmake]
  obtain ⟨s', hw, hl, ⟨-, e, he⟩ | ⟨-, r, hr, hrb, hpaging, -⟩⟩ :=
    wrapResult_eq host base .none [] .none s
  · rw [he]
    exact ⟨hw, hl, fun r h => (by cases h)⟩
  · rw [hr]
    exact ⟨hw, hl, fun r' h => by cases h; exact ⟨by rw [hrb, hbase], hpaging⟩⟩

end Receipts

end VeraMono
