import VeraMono.Framework.Family
import VeraMono.Proof.CoordinationRecovery
import VeraMono.Proof.Verification

/-!
# What the command journal records

The rows of the journal are those of calls whose arguments passed their checks, and none is changed
or removed. A call whose command has a row is compared with it: its candidate is the row exactly
when its arguments say what the row says. `Recorded.replay` is that comparison and
`command_journal` the law of every run; `number_replay_diverges` is a command given by a number.
-/

namespace VeraMono

open Framework

section Programs
variable {σ ε α β : Type}

namespace Framework.Prog

theorem bind_ne_ret {p : Prog Empty σ ε α} {k : α → Prog Empty σ ε β} {b : β} (hk : ∀ a, k a ≠ ret b) :
    p >>= k ≠ ret b := by
  cases p with
  | ret a => exact hk a
  | _ => exact fun h => (by cases h)

theorem ends_bind {p : Prog Empty σ ε α} {k : α → Prog Empty σ ε β} {b : β} (hk : ∀ a, k a ≠ ret b)
    {h : List (Move Empty σ)} {s s' : σ} (hs : ((p >>= k).after h).Ends s s' b) :
    ∃ a h', ((k a).after h').Ends s s' b := by
  induction p generalizing h with
  | ret a => exact ⟨a, h, hs⟩
  | raise e =>
    have hraise : ((raise e : Prog Empty σ ε α) >>= k).after h = raise e := after_raise e
    rw [hraise] at hs
    exact hs.elim
  | atom act next ih =>
    induction h using moves_cases with
    | nil => exact absurd hs.2 (bind_ne_ret hk)
    | concat h m =>
      have hafter : ((atom act next : Prog Empty σ ε α) >>= k).after (h ++ [m]) =
          (next m.before >>= k).after h := after_atom
      rw [hafter] at hs
      exact ih _ hs
  | acquire l _ _ | release l _ => exact l.elim

theorem ends_readM {f : σ → Except ε α} {k : α → Prog Empty σ ε β} {b : β}
    (hk : ∀ a, k a ≠ ret b) {h : List (Move Empty σ)} {s s' : σ}
    (hs : ((readM f >>= k).after h).Ends s s' b) : ∃ h' m a,
    h = h' ++ [m] ∧ f m.before = .ok a ∧ ((k a).after h').Ends s s' b := by
  induction h using moves_cases with
  | nil => exact absurd hs.2 (bind_ne_ret hk)
  | concat h m =>
    have hafter : ((readM f >>= k).after (h ++ [m]) : Prog Empty σ ε β) =
        ((ofExcept (f m.before) : Prog Empty σ ε α) >>= k).after h := after_atom
    rw [hafter] at hs
    obtain ⟨a, ha, hs⟩ := ends_check.1 hs
    exact ⟨h, m, a, rfl, ha, hs⟩

end Framework.Prog

end Programs

namespace CommandJournal

variable {D : Type} [DecidableEq D] {H : Hashing D} {j j' : CommandJournal D} {b b' : CommandBinding D}
  {r r' : CommandResult D}

/-! ## Arguments and rows -/

def digestOf : DigestText D → Option D
  | .lower d => some d
  | .upper d => some d
  | .malformed _ => none

omit [DecidableEq D] in
theorem requireDigest_ok {label : String} {text : DigestText D} {d : D} :
    requireDigest label text = .ok d ↔ digestOf text = some d := by
  cases text with
  | lower d' | upper d' => simp [requireDigest, digestOf]
  | malformed s =>
    rw [requireDigest, digestOf]
    split <;> simp

/-- The arguments say what the row says. -/
structure BindArgs.Gives (a : BindArgs D) (b : CommandBinding D) : Prop where
  commandId : a.commandId = b.commandId
  effectId : a.effectId = b.effectId
  command : a.command = b.command
  actorWorkstream : a.actorWorkstream = b.actorWorkstream
  lifecyclePermitDigest : digestOf a.lifecyclePermitDigest = some b.lifecyclePermitDigest
  invocationDigest : digestOf a.invocationDigest = some b.invocationDigest
  requestDigest : digestOf a.requestDigest = some b.requestDigest

structure ResultArgs.Gives (a : ResultArgs D) (r : CommandResult D) : Prop where
  commandId : a.commandId.stored = some r.commandId
  resultDigest : digestOf a.resultDigest = some r.resultDigest
  resultClass : a.resultClass = r.resultClass
  databaseWriteConfirmed : a.databaseWriteConfirmed = r.databaseWriteConfirmed
  eventId : a.eventId = r.eventId
  eventSequence : a.eventSequence = r.eventSequence.map Int.ofNat

/-- What the checks of `bind` make sure of. -/
structure BindingOk (b : CommandBinding D) : Prop where
  commandId : b.commandId ≠ ""
  effectId : b.effectId ≠ ""
  command : b.command ≠ ""
  actorWorkstream : b.actorWorkstream ≠ ""

/-- What the checks of `record_result` make sure of. -/
structure ResultOk (r : CommandResult D) : Prop where
  resultClass : r.resultClass ≠ ""
  eventId : r.eventId ≠ some ""
  eventSequence : ∀ n, r.eventSequence = some n → 0 < n ∧ n ≤ maxSafeInteger

omit [DecidableEq D] in
theorem bindCandidate_ok {a : BindArgs D} :
    bindCandidate H a = .ok b ↔ a.Gives b ∧ BindingOk b ∧ bindingDigest H b = b.bindingDigest := by
  obtain ⟨commandId, effectId, command, actor, permit, invocation, request, digest⟩ := b
  simp only [bindCandidate, bind_eq_ok, requireText_ok, requireDigest_ok, pure_ok]
  constructor
  · rintro ⟨_, ⟨h₁, rfl⟩, _, ⟨h₂, rfl⟩, _, ⟨h₃, rfl⟩, _, ⟨h₄, rfl⟩, _, h₅, _, h₆, _, h₇, h⟩
    cases h
    exact ⟨⟨rfl, rfl, rfl, rfl, h₅, h₆, h₇⟩, ⟨h₁, h₂, h₃, h₄⟩, rfl⟩
  · rintro ⟨⟨h₁, h₂, h₃, h₄, h₅, h₆, h₇⟩, ⟨h₁', h₂', h₃', h₄'⟩, h⟩
    simp only [bindingDigest] at h
    subst h
    exact ⟨_, ⟨h₁ ▸ h₁', h₁⟩, _, ⟨h₂ ▸ h₂', h₂⟩, _, ⟨h₃ ▸ h₃', h₃⟩, _,
      ⟨h₄ ▸ h₄', h₄⟩, _, h₅, _, h₆, _, h₇, rfl⟩

theorem checkEventSequence_ok {value : Option Int} {n : Option Nat} :
    checkEventSequence value = .ok n ↔
      value = n.map Int.ofNat ∧ ∀ k, n = some k → 0 < k ∧ k ≤ maxSafeInteger := by
  cases value with
  | none => cases n <;> simp [checkEventSequence]
  | some i =>
    simp only [checkEventSequence, ite_error_ok, Except.ok.injEq]
    constructor
    · rintro ⟨hpos, hsafe, rfl⟩
      refine ⟨?_, ?_⟩
      · simp only [Option.map_some, Option.some.injEq, Int.ofNat_eq_natCast]
        omega
      · rintro k ⟨⟩
        omega
    · rintro ⟨hvalue, hn⟩
      cases n with
      | none => cases hvalue
      | some k =>
        obtain ⟨hpos, hsafe⟩ := hn k rfl
        cases hvalue
        simp only [Int.ofNat_eq_natCast, Int.natAbs_natCast, Int.toNat_natCast, and_true]
        omega

omit [DecidableEq D] in
theorem resultCandidate_ok {a : ResultArgs D} (hb : a.commandId.stored = some b.commandId) :
    resultCandidate H a b = .ok r ↔
      a.Gives r ∧ ResultOk r ∧ resultRecordDigest H b r = r.resultRecordDigest := by
  obtain ⟨commandId, result, resultClass, confirmed, eventId, eventSequence, digest⟩ := r
  simp only [resultCandidate, bind_eq_ok, requireText_ok, requireDigest_ok, ite_error_ok, ↓throw_bind,
    checkEventSequence_ok, pure_ok]
  constructor
  · rintro ⟨_, h₁, _, ⟨h₂, rfl⟩, h₃, _, ⟨h₄, h₅⟩, h⟩
    cases h
    exact ⟨⟨hb, h₁, rfl, rfl, rfl, h₄⟩, ⟨h₂, h₃, h₅⟩, rfl⟩
  · rintro ⟨⟨h₀, h₁, h₂, h₃, h₄, h₅⟩, ⟨h₂', h₄', h₅'⟩, h⟩
    have hid : b.commandId = commandId := Option.some.inj (hb.symm.trans h₀)
    simp only [resultRecordDigest] at h
    subst h
    exact ⟨_, h₁, _, ⟨h₂ ▸ h₂', h₂⟩, h₄ ▸ h₄', _, ⟨h₅, h₅'⟩, by rw [h₃, h₄, hid]; rfl⟩

omit [DecidableEq D] in
theorem resultCandidate_checked {a : ResultArgs D} (h : resultCandidate H a b = .ok r) : ResultOk r :=
  have hsame : resultCandidate H { a with commandId := .text b.commandId } b = .ok r := h
  ((resultCandidate_ok rfl).1 hsame).2.1

theorem readGiven_ok {given : SqlText} (h : readGiven H given j = .ok b) :
    given.stored = some b.commandId ∧ j.bindings.get? b.commandId = some b := by
  rw [readGiven] at h
  split at h
  · rename_i id hid
    rw [readBinding] at h
    split at h
    · cases h
    · rename_i b' hget
      obtain ⟨-, h⟩ := ite_error_ok.1 h
      cases h
      obtain rfl := Table.get?_key hget
      exact ⟨hid, hget⟩
  · cases h

/-! ## The tables of a run -/

/-- No row is changed or removed. -/
structure Keeps (j j' : CommandJournal D) : Prop where
  bindings : ∀ k b, j.bindings.get? k = some b → j'.bindings.get? k = some b
  results : ∀ k r, j.results.get? k = some r → j'.results.get? k = some r

omit [DecidableEq D] in
theorem Keeps.refl (j : CommandJournal D) : Keeps j j := ⟨fun _ _ => id, fun _ _ => id⟩

omit [DecidableEq D] in
theorem Keeps.trans {j'' : CommandJournal D} (h : Keeps j j') (h' : Keeps j' j'') : Keeps j j'' :=
  ⟨fun k b hb => h'.bindings k b (h.bindings k b hb), fun k r hr => h'.results k r (h.results k r hr)⟩

theorem get?_insert_of_get? {K V : Type} [DecidableEq K] {key : V → K} {t : Table key} {k : K} {v x : V}
    (h : t.get? k = some v) : (t.insert x).get? k = some v := by
  by_cases hk : k = key x
  · subst hk
    rw [Table.insert, dif_neg (by rw [h]; exact Option.some_ne_none v)]
    exact h
  · rwa [Table.get?_insert_other hk]

/-- The journals that calls lead to. -/
structure Recorded (H : Hashing D) (j : CommandJournal D) : Prop where
  consistent : Consistent H j
  bindings : ∀ b ∈ j.bindings.rows, BindingOk b
  results : ∀ r ∈ j.results.rows, ResultOk r

theorem Recorded.empty : Recorded H (.empty H) :=
  ⟨.empty, fun _ hb => absurd hb List.not_mem_nil, fun _ hr => absurd hr List.not_mem_nil⟩

theorem bind_stored (h : bind H b j = .ok (b', j')) :
    b' = b ∧ Keeps j j' ∧ j'.bindings.get? b.commandId = some b := by
  rw [bind] at h
  split at h
  · rename_i observed hget
    obtain ⟨heq, h⟩ := ite_error_ok.1 h
    cases h
    exact ⟨not_not.1 heq, .refl j, not_not.1 heq ▸ hget⟩
  · rename_i hnone
    obtain ⟨-, h⟩ := ite_error_ok.1 h
    obtain ⟨j'', hj, heq⟩ := map_eq_ok.1 h
    cases heq
    obtain ⟨hb, hr⟩ := writeMeta_tables hj
    refine ⟨rfl, ⟨fun k x hx => ?_, fun k x hx => hr ▸ hx⟩, ?_⟩
    · rw [hb]
      exact get?_insert_of_get? hx
    · rw [hb]
      exact Table.get?_insert_self hnone

theorem recordResult_stored (h : recordResult H r j = .ok (r', j')) :
    r' = r ∧ Keeps j j' ∧ j'.results.get? r.commandId = some r := by
  rw [recordResult] at h
  split at h
  · rename_i observed hget
    obtain ⟨heq, h⟩ := ite_error_ok.1 h
    cases h
    exact ⟨not_not.1 heq, .refl j, not_not.1 heq ▸ hget⟩
  · rename_i hnone
    obtain ⟨-, h⟩ := ite_error_ok.1 h
    obtain ⟨j'', hj, heq⟩ := map_eq_ok.1 h
    cases heq
    obtain ⟨hb, hr⟩ := writeMeta_tables hj
    refine ⟨rfl, ⟨fun k x hx => hb ▸ hx, fun k x hx => ?_⟩, ?_⟩
    · rw [hr]
      exact get?_insert_of_get? hx
    · rw [hr]
      exact Table.get?_insert_self hnone

theorem Recorded.bind (h : Recorded H j) (hb : BindingOk b) (ha : bind H b j = .ok (b', j')) :
    Recorded H j' := by
  obtain ⟨hresults, hrows⟩ := bind_ok ha
  refine ⟨h.consistent.bind ha, fun x hx => ?_, hresults ▸ h.results⟩
  rcases hrows x hx with hx | rfl
  · exact h.bindings x hx
  · exact hb

theorem Recorded.recordResult (h : Recorded H j) (hr : ResultOk r)
    (ha : recordResult H r j = .ok (r', j')) : Recorded H j' := by
  obtain ⟨hbindings, hrows⟩ := recordResult_ok ha
  refine ⟨h.consistent.recordResult ha, hbindings ▸ h.bindings, fun x hx => ?_⟩
  rcases hrows x hx with hx | rfl
  · exact h.results x hx
  · exact hr

/-- What every atom of a call does to the journal. -/
def Grows (H : Hashing D) (j j' : CommandJournal D) : Prop :=
  Keeps j j' ∧ (Recorded H j → Recorded H j')

theorem Grows.refl (j : CommandJournal D) : Grows H j j := ⟨.refl j, id⟩

theorem write_grows (w : Write D) : (write H w).All (Grows H) := by
  have hread {α : Type} {p : Prog Empty (CommandJournal D) Failure α} (hp : p.ReadOnly) :
      p.All (Grows H) := hp.all .refl
  cases w with
  | bind a =>
    refine (hread readIntegrity_readOnly).bind fun _ => ?_
    cases hc : bindCandidate H a with
    | error e => trivial
    | ok b =>
      refine Prog.All.map (Prog.All.txn (fun j _ j' ha => ?_) .refl) _
      exact ⟨(bind_stored ha).2.1, fun h => h.bind (bindCandidate_ok.1 hc).2.1 ha⟩
  | recordResult a =>
    refine (hread readIntegrity_readOnly).bind fun _ => (hread (Prog.ReadOnly.readM _)).bind fun b => ?_
    cases hc : resultCandidate H a b with
    | error e => trivial
    | ok r =>
      refine Prog.All.map (Prog.All.txn (fun j _ j' ha => ?_) .refl) _
      have ha := recordGiven_ok ha
      exact ⟨(recordResult_stored ha).2.1, fun h => h.recordResult (resultCandidate_checked hc) ha⟩

theorem program_grows (c : LedgerCall (Write D)) : (program H c).All (Grows H) := by
  cases c with
  | write w => exact (write_grows w).map _
  | verify => exact (readIntegrity_readOnly.all .refl).map _

theorem program_steps (c : LedgerCall (Write D)) {moves : List (Move Empty (CommandJournal D))}
    (hs : ((program H c).after moves).Steps j j') : Grows H j j' :=
  (Prog.All.after (program_grows c)).steps hs

theorem recorded_of_follows {P : Pool Empty (CommandJournal D) Failure (LedgerReply (Row D) D) (LedgerCall (Write D))}
    (h : Follows (program H) (.empty H) P) : Recorded H P.store :=
  h.traced.invariant .empty fun c _ _ _ hs => (program_steps c hs).2

/-! ## What the metadata vouches for -/

theorem checkBindings_ok {rows : List (CommandBinding D)} (h : checkBindings H rows = .ok ())
    (hb : b ∈ rows) : bindingDigest H b = b.bindingDigest := by
  induction rows with
  | nil => cases hb
  | cons x rows ih =>
    obtain ⟨hx, hrest⟩ := ite_error_ok.1 h
    rcases List.mem_cons.1 hb with rfl | hb
    · exact not_not.1 hx
    · exact ih hrest hb

theorem checkResults_ok {bindings : List (CommandBinding D)} {rows : List (CommandResult D)}
    (h : checkResults H bindings rows = .ok ()) (hr : r ∈ rows) :
    ∃ b, bindings.find? (fun b => b.commandId = r.commandId) = some b ∧
      resultRecordDigest H b r = r.resultRecordDigest := by
  induction rows with
  | nil => cases hr
  | cons x rows ih =>
    rw [checkResults] at h
    split at h
    · cases h
    · rename_i b hfind
      obtain ⟨hx, hrest⟩ := ite_error_ok.1 h
      rcases List.mem_cons.1 hr with rfl | hr
      · exact ⟨b, hfind, not_not.1 hx⟩
      · exact ih hrest hr

theorem Consistent.checks (h : Consistent H j) :
    checkBindings H (sortBindings j.bindings.rows) = .ok () ∧
      checkResults H j.bindings.rows (sortResults j.results.rows) = .ok () := by
  simp only [Consistent, projectionState, bind_eq_ok] at h
  obtain ⟨_, hb, _, hr, -⟩ := h
  exact ⟨hb, hr⟩

theorem Consistent.binding (h : Consistent H j) (hb : b ∈ j.bindings.rows) :
    bindingDigest H b = b.bindingDigest :=
  checkBindings_ok h.checks.1 ((List.perm_insertionSort _ _).mem_iff.2 hb)

theorem Consistent.result (h : Consistent H j) (hr : r ∈ j.results.rows) :
    ∃ b, j.bindings.get? r.commandId = some b ∧ resultRecordDigest H b r = r.resultRecordDigest :=
  checkResults_ok h.checks.2 ((List.perm_insertionSort _ _).mem_iff.2 hr)

/-! ## Replays -/

/-- The call says what the stored row of its command says. -/
def Replays (j : CommandJournal D) : Write D → Row D → Prop
  | .bind a, .binding b => j.bindings.get? a.commandId = some b ∧ a.Gives b
  | .recordResult a, .result r => j.results.get? r.commandId = some r ∧ a.Gives r
  | _, _ => False

/-- The command of the call has a row, and the call says something else. -/
def Diverges (j : CommandJournal D) : Write D → Prop
  | .bind a => ∃ b, j.bindings.get? a.commandId = some b ∧ ¬ a.Gives b
  | .recordResult a => ∃ r, a.commandId.stored = some r.commandId ∧ j.results.get? r.commandId = some r ∧
    ¬ a.Gives r

/-- The command is given by a text. -/
def Write.Exact : Write D → Prop
  | .bind _ => True
  | .recordResult a => a.commandId.IsText

theorem run_map {σ ε α β : Type} {p : Prog Empty σ ε α} {f : α → β} {s : σ} :
    (p.map f).run s = ((p.run s).1.map f, (p.run s).2) := by
  rw [Prog.map, Prog.run_resume]
  cases (p.run s).1 <;> rfl

/-- What a call does alone, once the integrity of the journal is verified. -/
theorem run_bindWrite (h : Recorded H j) (a : BindArgs D) :
    (write H (.bind a)).run j = (Prog.ofExcept (bindCandidate H a) >>= fun b =>
      (Prog.txn (CommandJournal.bind H b)).map Row.binding : Prog Empty _ Failure _).run j := by
  rw [write, Prog.run_bind_ok h.consistent.readIntegrity]

theorem run_resultWrite (h : Recorded H j) {a : ResultArgs D} (hid : a.commandId.stored = some b.commandId)
    (hb : j.bindings.get? b.commandId = some b) :
    (write H (.recordResult a)).run j = (Prog.ofExcept (resultCandidate H a b) >>= fun r =>
      (Prog.txn (recordGiven H a.commandId r)).map Row.result : Prog Empty _ Failure _).run j := by
  have hread : readGiven H a.commandId j = .ok b := by
    rw [readGiven, hid]
    dsimp only
    rw [readBinding, hb]
    exact if_neg (not_not.2 (h.consistent.binding (Table.mem_of_get? hb)))
  have hrun : (Prog.readM (readGiven H a.commandId) : Prog Empty (CommandJournal D) Failure _).run j =
      (.ok b, j) := by
    rw [Prog.run_readM, hread]
  rw [write, Prog.run_bind_ok h.consistent.readIntegrity, Prog.run_bind_ok hrun]

variable {w : Write D} {row : Row D}

/-- A replay returns the stored row just when its command is given by a text. -/
theorem Recorded.replay (h : Recorded H j) (hr : Replays j w row) :
    (write H w).run j = (.ok row, j) ↔ w.Exact := by
  cases w with
  | bind a =>
    cases row with
    | result => exact hr.elim
    | binding b =>
      obtain ⟨hget, hg⟩ := hr
      have hmem := Table.mem_of_get? hget
      rw [run_bindWrite h, bindCandidate_ok.2 ⟨hg, h.bindings b hmem, h.consistent.binding hmem⟩]
      have htxn : CommandJournal.bind H b j = .ok (b, j) := by
        rw [CommandJournal.bind, ← hg.commandId, hget]
        exact if_neg (not_not.2 rfl)
      rw [Prog.run_bind_ok (Prog.run_ofExcept _ j), run_map, Prog.run_txn, htxn]
      exact ⟨fun _ => trivial, fun _ => rfl⟩
  | recordResult a =>
    cases row with
    | binding => exact hr.elim
    | result r =>
      obtain ⟨hget, hg⟩ := hr
      have hmem := Table.mem_of_get? hget
      obtain ⟨b, hb, hdigest⟩ := h.consistent.result hmem
      have hkey := Table.get?_key hb
      have hid : a.commandId.stored = some b.commandId := hkey ▸ hg.commandId
      rw [run_resultWrite h hid (hkey ▸ hb), (resultCandidate_ok hid).2 ⟨hg, h.results r hmem, hdigest⟩,
        Prog.run_bind_ok (Prog.run_ofExcept _ j), run_map, Prog.run_txn, recordGiven, hget]
      change _ ↔ a.commandId.IsText
      rw [SqlText.isText_iff hg.commandId]
      by_cases htext : a.commandId = .text r.commandId
      · rw [if_neg fun hne => hne.2 htext, CommandJournal.recordResult, hget]
        dsimp only
        rw [if_neg (not_not.2 rfl)]
        exact ⟨fun _ => htext, fun _ => rfl⟩
      · rw [if_pos ⟨rfl, htext⟩]
        exact ⟨fun heq => (by cases heq), fun heq => absurd heq htext⟩

theorem Recorded.divergent (h : Recorded H j) (hd : Diverges j w) :
    ∃ e, (write H w).run j = (.error e, j) := by
  cases w with
  | bind a =>
    obtain ⟨b, hget, hng⟩ := hd
    rw [run_bindWrite h]
    cases hc : bindCandidate H a with
    | error e => exact ⟨e, rfl⟩
    | ok c =>
      have hg := (bindCandidate_ok.1 hc).1
      have htxn : CommandJournal.bind H c j =
          .error (commandError "coordination command id already binds different invocation") := by
        rw [CommandJournal.bind, ← hg.commandId, hget]
        exact if_pos fun heq : b = c => hng (heq ▸ hg)
      rw [Prog.run_bind_ok (Prog.run_ofExcept _ j), run_map, Prog.run_txn, htxn]
      exact ⟨_, rfl⟩
  | recordResult a =>
    obtain ⟨r, hgiven, hget, hng⟩ := hd
    obtain ⟨b, hb, -⟩ := h.consistent.result (Table.mem_of_get? hget)
    have hkey := Table.get?_key hb
    have hid : a.commandId.stored = some b.commandId := hkey ▸ hgiven
    rw [run_resultWrite h hid (hkey ▸ hb)]
    cases hc : resultCandidate H a b with
    | error e => exact ⟨e, rfl⟩
    | ok c =>
      have hg := ((resultCandidate_ok hid).1 hc).1
      have hsame : c.commandId = r.commandId := Option.some.inj (hg.commandId.symm.trans hgiven)
      have htxn : ∃ e, recordGiven H a.commandId c j = .error e := by
        rw [recordGiven]
        split
        · exact ⟨_, rfl⟩
        · rw [CommandJournal.recordResult, hsame, hget]
          exact ⟨_, if_pos fun heq : r = c => hng (heq ▸ hg)⟩
      obtain ⟨e, htxn⟩ := htxn
      rw [Prog.run_bind_ok (Prog.run_ofExcept _ j), run_map, Prog.run_txn, htxn]
      exact ⟨e, rfl⟩

omit [DecidableEq D] in
theorem Replays.keeps (h : Replays j w row) (hk : Keeps j j') : Replays j' w row := by
  cases w <;> cases row
  · exact ⟨hk.bindings _ _ h.1, h.2⟩
  · exact h.elim
  · exact h.elim
  · exact ⟨hk.results _ _ h.1, h.2⟩

theorem ends_replays {moves : List (Move Empty (CommandJournal D))}
    (hs : ((write H w).after moves).Ends j j' row) : Replays j' w row := by
  cases w with
  | bind a =>
    obtain ⟨_, moves', hs⟩ := Prog.ends_bind (fun _ => Prog.check_ne_ret fun _ h => (by cases h)) hs
    obtain ⟨b, hc, hs⟩ := Prog.ends_check.1 hs
    rw [Prog.after_map] at hs
    obtain ⟨b', htxn, rfl⟩ := Prog.ends_map hs
    obtain ⟨rfl, -, hget⟩ := bind_stored (Prog.ends_txn.1 htxn).2
    have hg := (bindCandidate_ok.1 hc).1
    exact ⟨hg.commandId ▸ hget, hg⟩
  | recordResult a =>
    obtain ⟨_, moves', hs⟩ := Prog.ends_bind
      (fun _ => Prog.bind_ne_ret fun _ => Prog.check_ne_ret fun _ h => (by cases h)) hs
    obtain ⟨h', m, b, -, hread, hs⟩ := Prog.ends_readM (fun _ => Prog.check_ne_ret fun _ h => (by cases h)) hs
    obtain ⟨r, hc, hs⟩ := Prog.ends_check.1 hs
    rw [Prog.after_map] at hs
    obtain ⟨r', htxn, rfl⟩ := Prog.ends_map hs
    obtain ⟨rfl, -, hget⟩ := recordResult_stored (recordGiven_ok (Prog.ends_txn.1 htxn).2)
    exact ⟨hget, ((resultCandidate_ok (readGiven_ok hread).1).1 hc).1⟩

/-- Whatever calls run, and however their transactions fall: `verify_integrity` passes; no row is
changed or removed; a result has a binding, and no command has two; a call that returned a row has
it stored, and returns it again with nothing changed just when its command is given by a text; a call
that says something else than the row of its command raises with nothing changed. -/
theorem command_journal (H : Hashing D) (es : List (Event (LedgerCall (Write D)))) :
    let P := (Pool.init (.empty H)).run (CommandJournal.program H) es
    (readIntegrity H id : Prog Empty (CommandJournal D) Failure D).run P.store =
        (.ok P.store.projectionDigest, P.store) ∧
      (∀ st ∈ P.trace, Keeps st.move.before P.store ∧ Keeps st.move.after P.store) ∧
      (∀ r ∈ P.store.results.rows, (∃ b ∈ P.store.bindings.rows, b.commandId = r.commandId) ∧
        ∀ r' ∈ P.store.results.rows, r'.commandId = r.commandId → r' = r) ∧
      (∀ i w row, P.thread i = some ⟨.write w, some (.ret (.written row))⟩ → Replays P.store w row) ∧
      (∀ w row, Replays P.store w row → ((write H w).run P.store = (.ok row, P.store) ↔ w.Exact)) ∧
      ∀ w, Diverges P.store w → ∃ e, (write H w).run P.store = (.error e, P.store) := by
  intro P
  have hfollows : Follows (CommandJournal.program H) (.empty H) P := Pool.follows _ _ es
  have hrecorded := recorded_of_follows hfollows
  have hkeeps (st : Step Empty (CommandJournal D) (LedgerCall (Write D))) (hst : st ∈ P.trace) :
      Keeps st.move.before P.store ∧ Keeps st.move.after P.store :=
    hfollows.traced.since .refl (fun _ _ _ => .trans) (fun c _ _ _ hs => (program_steps c hs).1) hst
  refine ⟨hrecorded.consistent.readIntegrity, hkeeps, fun r hr => ⟨?_, fun r' hr' heq => ?_⟩,
    fun i w row hi => ?_, fun w row => hrecorded.replay, fun w => hrecorded.divergent⟩
  · obtain ⟨b, hb, -⟩ := hrecorded.consistent.result hr
    exact ⟨b, Table.mem_of_get? hb, Table.get?_key hb⟩
  · exact List.inj_on_of_nodup_map P.store.results.nodup hr' hr heq
  · have hne : CommandJournal.program H (.write w) ≠ .ret (.written row) := by
      cases w <;> exact fun h => (by cases h)
    obtain ⟨later, st, earlier, htrace, -, -, hends⟩ := hfollows.returned hne hi
    rw [CommandJournal.program, ledgerProgram, Prog.after_map] at hends
    obtain ⟨row', hends, heq⟩ := Prog.ends_map hends
    cases heq
    exact (ends_replays hends).keeps
      (hkeeps st (htrace ▸ List.mem_append_right _ List.mem_cons_self)).2

/-! ## A number for a command -/

def sampleHashing : Hashing Nat := ⟨fun _ => 0, fun _ => ""⟩

def sampleBind : BindArgs Nat := ⟨"5", "e", "c", "a", .lower 0, .lower 0, .lower 0⟩

/-- `record_result(5, ...)` of the command `"5"`. -/
def numberResult : ResultArgs Nat := ⟨.other "5" (some "5"), .lower 0, "OK", true, none, none⟩

/-- The result of the command is recorded, and the same call raises from then on. -/
theorem number_replay_diverges :
    let P := (Pool.init (.empty sampleHashing)).run (CommandJournal.program sampleHashing)
      ([.spawn 0 (.write (.bind sampleBind)), .spawn 1 (.write (.recordResult numberResult))] ++
        List.replicate 8 (.step 0) ++ List.replicate 8 (.step 1))
    ∃ row, Replays P.store (.recordResult numberResult) row ∧
      (write sampleHashing (.recordResult numberResult)).run P.store ≠ (.ok row, P.store) := by
  intro P
  have hresult : P.store.results.get? "5" = some ⟨"5", 0, "OK", true, none, none, 0⟩ := by decide +kernel
  have hreplays : Replays P.store (.recordResult numberResult) (.result ⟨"5", 0, "OK", true, none, none, 0⟩) :=
    ⟨hresult, rfl, rfl, rfl, rfl, rfl, rfl⟩
  refine ⟨_, hreplays, fun hrun => ?_⟩
  have hfollows : Follows (CommandJournal.program sampleHashing) (.empty sampleHashing) P := Pool.follows _ _ _
  obtain ⟨_, hexact⟩ := ((recorded_of_follows hfollows).replay hreplays).1 hrun
  cases hexact

end CommandJournal

end VeraMono
