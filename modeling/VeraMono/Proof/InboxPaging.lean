import Mathlib.Data.List.Infix
import VeraMono.Framework.Paging
import VeraMono.Proof.BusSteps

/-!
# Paging through an inbox

A reader commits the cursor of each page before it reads the next, while others append. A
read returns the first rows of the inbox past the cursor, as the repository is at its last
query (`readTemporal_ok`), so its pages lie end to end (`Reader.Sound`).
-/

namespace VeraMono

open Framework Bus

variable {D α β : Type}

/-! ## One read -/

section Reading
variable [DecidableEq D] {R : BusRuntime D} {host : BusHost} {actor : ActorContext} {args : ReadInboxArgs}
  {s s' : BusState D}

open SQLiteCoordinationRepository

/-- A repository that `append` made, and a later state of it. -/
structure Grown (R : BusRuntime D) (log log' : SQLiteCoordinationRepository D) : Prop where
  verifiable : Verifiable R.hashing R.py log → Verifiable R.hashing R.py log'
  entries : log.entries <+: log'.entries

instance : IsPreorder (SQLiteCoordinationRepository D) (Grown R) where
  refl _ := ⟨id, List.prefix_rfl⟩
  trans _ _ _ h h' := ⟨h'.verifiable ∘ h.verifiable, h.entries.trans h'.entries⟩

theorem grown_appendOther (log : SQLiteCoordinationRepository D) (a : CoordinationEventDraft × ClockText) :
    Grown R log (appendOther R.hashing R.py log a) := by
  unfold appendOther
  cases h : append R.hashing R.py a.1 a.2 log with
  | error e => exact refl_of (Grown R) log
  | ok r =>
    obtain ⟨event, log'⟩ := r
    refine ⟨fun hv => hv.append h, ?_⟩
    obtain ⟨c, -, -, -, -, -, -, -, rfl⟩ := append_ok h
    exact List.prefix_append _ _

theorem grown_foldl (batch : List (CoordinationEventDraft × ClockText)) (log : SQLiteCoordinationRepository D) :
    Grown R log (batch.foldl (appendOther R.hashing R.py) log) := by
  induction batch generalizing log with
  | nil => exact refl_of (Grown R) log
  | cons a batch ih => exact trans_of (Grown R) (grown_appendOther log a) (ih _)

theorem grown_interleave (s : BusState D) : Grown R s.log (interleave R.hashing R.py s).log := grown_foldl _ _

/-- The order of the repositories of states. -/
instance : IsPreorder (BusState D) fun s s' => Grown R s.log s'.log where
  refl s := refl_of (Grown R) s.log
  trans _ _ _ h h' := trans_of (Grown R) h h'

instance : Looks R.hashing R.py fun s s' => Grown R s.log s'.log := ⟨grown_interleave⟩

instance : Waits fun s s' : BusState D => Grown R s.log s'.log :=
  ⟨fun _ s _ => refl_of (Grown R) s.log, fun s _ => refl_of (Grown R) s.log⟩

/-- The event of a row. -/
def sequenced (e : Entry CoordinationEvent D) : SequencedEvent := ⟨e.sequence, e.body⟩

omit [DecidableEq D] in
theorem eventFromRow_ok {py : Stdlib} {e : Entry CoordinationEvent D} {event : SequencedEvent}
    (h : eventFromRow py e = .ok event) : event = sequenced e := by
  rw [eventFromRow] at h
  cases hrow : fromRow py e.body with
  | error f =>
    rw [hrow] at h
    cases h
  | ok u =>
    rw [hrow] at h
    cases h
    rfl

omit [DecidableEq D] in
theorem mapM_eventFromRow {py : Stdlib} {rows : List (Entry CoordinationEvent D)} {events : List SequencedEvent}
    (h : rows.mapM (eventFromRow py) = .ok events) : events = rows.map sequenced := by
  induction rows generalizing events with
  | nil =>
    cases h
    rfl
  | cons e rows ih =>
    simp only [List.mapM_cons, bind_eq_ok, pure_ok] at h
    obtain ⟨event, he, events, hrows, rfl⟩ := h
    rw [eventFromRow_ok he, ih hrows]
    rfl

/-- The rows are those of the repository at the last query. -/
theorem readInbox_ok {target : String} {after : Int} {limit : Nat} {includeAcknowledged : Bool}
    {events : List SequencedEvent}
    (h : readInbox R.hashing R.py target after limit includeAcknowledged s = (.ok events, s')) :
    events = (inboxRows target after limit includeAcknowledged s'.log).map sequenced := by
  rw [readInbox, bind_eq_ok_iff] at h
  obtain ⟨u, t, -, h⟩ := h
  rw [select, Prod.mk.injEq] at h
  obtain ⟨h, rfl⟩ := h
  cases hrows : (inboxRows target after limit includeAcknowledged (interleave R.hashing R.py t).log).mapM
      (eventFromRow R.py) with
  | error e =>
    rw [hrows] at h
    cases h
  | ok events' =>
    rw [hrows] at h
    cases h
    exact mapM_eventFromRow hrows

/-- The wanted events of an inbox past a cursor. -/
def wanted (target : String) (after : Int) (includeAcknowledged : Bool) (log : SQLiteCoordinationRepository D) :
    List SequencedEvent :=
  (log.entries.filter fun e =>
    inInbox target after e && (includeAcknowledged || !acknowledged target log e)).map sequenced

def eventNumber (e : SequencedEvent) : Int := e.eventSequence

/-- A read that succeeds returns the first wanted events, and whether there are more. -/
theorem readTemporal_ok {operation : BusOperation} {r : TemporalCoordinationResult}
    (h : readTemporal R host operation actor args s = (.ok r, s')) :
    r.events = (wanted (args.target actor) args.afterSequence args.includeAcknowledged s'.log).take
        args.limit.toNat ∧
      r.receipt.paging.cursorOut = some (nextCursor eventNumber args.afterSequence r.events) ∧
      r.receipt.paging.hasMore = some (decide (args.limit.toNat <
        ((wanted (args.target actor) args.afterSequence args.includeAcknowledged s'.log).take
          (args.limit.toNat + 1)).length)) := by
  simp only [readTemporal, bind_eq_ok_iff, ite_throw_eq_ok] at h
  obtain ⟨_, _, -, _, _, -, _, _, -, -, -, events, t, hread, base, t', hmake, hwrap⟩ := h
  simp only [makeResult, ite_throw_eq_ok] at hmake
  obtain ⟨-, hmake⟩ := hmake
  cases hmake
  have hevents : events = (wanted (args.target actor) args.afterSequence args.includeAcknowledged t.log).take
      (args.limit.toNat + 1) := by
    rw [readInbox_ok hread, inboxRows, wanted, List.map_take]
  have hpage : events.take args.limit.toNat = (wanted (args.target actor) args.afterSequence
      args.includeAcknowledged t.log).take args.limit.toNat := by
    rw [hevents, List.take_take, Nat.min_eq_left (Nat.le_succ _)]
  obtain ⟨s'', -, hlog, ⟨-, e, he⟩ | ⟨-, r', hr', -, hpaging, hr⟩⟩ := wrapResult_eq host _ _ _ .none t
  · cases he.symm.trans hwrap
  · cases hr'.symm.trans hwrap
    rw [hlog, hr, hpaging, ← hpage, ← hevents]
    exact ⟨rfl, rfl, rfl⟩

/-- The command grows the repository, and has a cursor only when the read succeeds. -/
theorem coordinationReadInbox_spec (R : BusRuntime D) (host : BusHost) (actor : ActorContext)
    (args : ReadInboxArgs) (s : BusState D) :
    Grown R s.log (coordinationReadInbox R host actor args s).2.log ∧
      ∀ r s' cursor, coordinationReadInbox R host actor args s = (.ok r, s') →
        r.receipt.paging.cursorOut = some cursor → readTemporal R host .readInbox actor args s = (.ok r, s') := by
  refine ⟨coordinationReadInbox_always (P := fun s s' : BusState D => Grown R s.log s'.log) s,
    fun r s' cursor h hcursor => ?_⟩
  rw [coordinationReadInbox, receipted] at h
  cases hread : readTemporal R host .readInbox actor args s with
  | mk r t =>
    cases r with
    | ok r => rwa [tryCatch_of_ok hread] at h
    | error e =>
      rw [tryCatch_of_error hread] at h
      cases hk : e.kind.resultClass with
      | none =>
        rw [hk] at h
        cases h
      | some resultClass =>
        rw [hk] at h
        obtain ⟨-, -, hpaging⟩ := failureResult_denies (R := R) t
        rw [(hpaging r (congrArg Prod.fst h)).2] at hcursor
        cases hcursor

end Reading

/-! ## Pages one after another -/

structure InboxPage (D : Type) extends Page SequencedEvent Int where
  log : SQLiteCoordinationRepository D
  includeAcknowledged : Bool
  hasMore : Option Bool

/-- The repository, the cursor that was committed last, and the pages read. -/
structure Reader (D : Type) where
  log : SQLiteCoordinationRepository D
  cursor : Int
  pages : List (InboxPage D)

/-- Somebody appends, or the reader reads the next page, while others append between the
queries and the host has been asked before. -/
inductive InboxStep
  | append (draft : CoordinationEventDraft) (recordTime : ClockText)
  | read (host : BusHost) (limit : Int) (includeAcknowledged : Bool)
      (others : List (List (CoordinationEventDraft × ClockText))) (asked : Nat) (verified : String → Nat)

namespace Reader
variable [DecidableEq D] (R : BusRuntime D) (actor : ActorContext) (targetBranch : Option String)

/-- What a reader does with the result of a read: it keeps the page and commits its cursor. -/
def commit (reader : Reader D) (includeAcknowledged : Bool)
    (o : Except BusException TemporalCoordinationResult × BusState D) : Reader D :=
  match o.1 with
  | .error _ => { reader with log := o.2.log }
  | .ok r =>
    match r.receipt.paging.cursorOut with
    | none => { reader with log := o.2.log }
    | some cursor =>
      { log := o.2.log, cursor
        pages := reader.pages ++
          [⟨⟨reader.cursor, cursor, r.events⟩, o.2.log, includeAcknowledged, r.receipt.paging.hasMore⟩] }

def step (reader : Reader D) : InboxStep → Reader D
  | .append draft recordTime => { reader with log := appendOther R.hashing R.py reader.log (draft, recordTime) }
  | .read host limit includeAcknowledged others asked verified =>
    reader.commit includeAcknowledged
      (coordinationReadInbox R host actor ⟨targetBranch, reader.cursor, limit, includeAcknowledged⟩
        ⟨reader.log, others, asked, verified, []⟩)

/-- A reader of an empty repository. -/
def start : Reader D := ⟨(repositoryChain R.hashing).empty, 0, []⟩

def run (steps : List InboxStep) : Reader D := steps.foldl (step R actor targetBranch) (start R)

/-- All that the reader was given. -/
def deliveries (reader : Reader D) : List SequencedEvent := delivered (reader.pages.map InboxPage.toPage)

end Reader

/-! ## What a page has -/

section Pages
variable {R : BusRuntime D} {target : String} {log : SQLiteCoordinationRepository D}
  {p : InboxPage D} {e : Entry CoordinationEvent D}

open SQLiteCoordinationRepository

variable {includeAcknowledged : Bool} {after : Int}

theorem mem_wanted {a : SequencedEvent} :
    a ∈ wanted target after includeAcknowledged log ↔ ∃ e ∈ log.entries, e.body.targetBranch = some target ∧
      after < e.sequence ∧ (includeAcknowledged = true ∨ acknowledged target log e = false) ∧ sequenced e = a := by
  simp only [wanted, List.mem_map, List.mem_filter, inInbox, Bool.and_eq_true, decide_eq_true_eq, Bool.or_eq_true,
    Bool.not_eq_true', and_assoc]

theorem wanted_past : ∀ a ∈ wanted target after includeAcknowledged log, after < eventNumber a := by
  intro a ha
  obtain ⟨e, -, -, hafter, -, rfl⟩ := mem_wanted.1 ha
  exact hafter

theorem wanted_sorted (h : Verifiable R.hashing R.py log) :
    (wanted target after includeAcknowledged log).Pairwise fun a b => eventNumber a < eventNumber b := by
  refine List.Pairwise.map sequenced (fun _ _ => Int.ofNat_lt.2) ?_
  exact h.chain.linked.sorted.filter _

structure InboxPage.Read (R : BusRuntime D) (target : String) (p : InboxPage D) (n : Nat) : Prop where
  verifiable : Verifiable R.hashing R.py p.log
  items : p.items = (wanted target p.start p.includeAcknowledged p.log).take n
  stop : p.stop = nextCursor eventNumber p.start p.items
  hasMore : p.hasMore = some (decide (n <
    ((wanted target p.start p.includeAcknowledged p.log).take (n + 1)).length))

namespace InboxPage.Read

variable {n : Nat}

theorem ordered (h : p.Read R target n) : p.toPage.Ordered eventNumber := by
  have hordered : Page.Ordered eventNumber ⟨p.start, nextCursor eventNumber p.start
      ((wanted target p.start p.includeAcknowledged p.log).take n),
      (wanted target p.start p.includeAcknowledged p.log).take n⟩ :=
    ordered_take (wanted_sorted h.verifiable) wanted_past
  rwa [← h.items, ← h.stop] at hordered

/-- An event that a page covers is in it, unless the target has acknowledged it. -/
theorem mem_items (h : p.Read R target n) (he : e ∈ p.log.entries) (ht : e.body.targetBranch = some target)
    (hc : p.Covers e.sequence) :
    sequenced e ∈ p.items ↔ p.includeAcknowledged = true ∨ acknowledged target p.log e = false := by
  constructor
  · intro hitem
    rw [h.items] at hitem
    obtain ⟨e', he', -, -, hack, hsame⟩ := mem_wanted.1 (List.mem_of_mem_take hitem)
    have hbody : e'.body = e.body := congrArg SequencedEvent.event hsame
    rwa [acknowledged, hbody] at hack
  · intro hack
    rw [h.items, mem_take_iff (c := p.start) (wanted_sorted h.verifiable) wanted_past
      (mem_wanted.2 ⟨e, he, ht, hc.1, hack, rfl⟩), ← h.items, ← h.stop]
    exact hc.2

theorem pending (h : p.Read R target n) (hmore : p.hasMore = some false) (he : e ∈ p.log.entries)
    (ht : e.body.targetBranch = some target) (hstop : p.stop < e.sequence) :
    p.includeAcknowledged = false ∧ acknowledged target p.log e = true := by
  rw [h.hasMore, Option.some.injEq, decide_eq_false_iff_not,
    lt_length_take_iff (c := p.start) (wanted_sorted h.verifiable) wanted_past, ← h.items, ← h.stop] at hmore
  have hnot : ¬ (p.includeAcknowledged = true ∨ acknowledged target p.log e = false) := fun hack =>
    hmore ⟨sequenced e, mem_wanted.2 ⟨e, he, ht, h.ordered.le.trans_lt hstop, hack, rfl⟩, hstop⟩
  simpa using hnot

end InboxPage.Read

end Pages

/-! ## What a reader has -/

namespace Reader

def inbox (actor : ActorContext) (targetBranch : Option String) : String :=
  (truthy targetBranch).getD actor.workstream

variable {R : BusRuntime D} {actor : ActorContext} {targetBranch : Option String}
  {target : String} {reader : Reader D} {log : SQLiteCoordinationRepository D} {p : InboxPage D}

/-- The pages lie end to end from the start to the cursor, and each was read as the
repository was then. -/
structure Sound (R : BusRuntime D) (target : String) (reader : Reader D) : Prop where
  verifiable : SQLiteCoordinationRepository.Verifiable R.hashing R.py reader.log
  tiled : Tiled eventNumber 0 (reader.pages.map InboxPage.toPage) reader.cursor
  cursor : reader.cursor ≤ reader.log.sequence
  read : ∀ p ∈ reader.pages, ∃ n, p.Read R target n
  stop : ∀ p ∈ reader.pages, p.stop ≤ p.log.sequence
  history : ∀ p ∈ reader.pages, p.log.entries <+: reader.log.entries

theorem Sound.start : Sound R target (start R) where
  verifiable := .empty
  tiled := rfl
  cursor := le_rfl
  read p hp := (by cases hp)
  stop p hp := (by cases hp)
  history p hp := (by cases hp)

theorem Grown.sequence_le (h : Grown R reader.log log)
    (hv : SQLiteCoordinationRepository.Verifiable R.hashing R.py reader.log) :
    reader.log.sequence ≤ log.sequence := by
  rw [hv.chain.length, (h.verifiable hv).chain.length]
  exact h.entries.length_le

theorem Sound.grow (h : Sound R target reader) (hg : Grown R reader.log log) :
    Sound R target { reader with log } where
  verifiable := hg.verifiable h.verifiable
  tiled := h.tiled
  cursor := h.cursor.trans (Int.ofNat_le.2 (Grown.sequence_le hg h.verifiable))
  read := h.read
  stop := h.stop
  history p hp := (h.history p hp).trans hg.entries

/-- The reader commits a page that starts at its cursor. -/
theorem Sound.page (h : Sound R target reader) (hg : Grown R reader.log p.log) {n : Nat} (hp : p.Read R target n)
    (hstart : p.start = reader.cursor) :
    Sound R target { log := p.log, cursor := p.stop, pages := reader.pages ++ [p] } := by
  have hcursor := (h.grow hg).cursor
  have hstop : p.stop ≤ p.log.sequence := by
    refine Int.lt_add_one_iff.1 (hp.stop ▸ nextCursor_lt (hstart ▸ Int.lt_add_one_iff.2 hcursor) fun a ha => ?_)
    obtain ⟨e, he, -, -, -, rfl⟩ := mem_wanted.1 (List.mem_of_mem_take (hp.items ▸ ha))
    exact Int.lt_add_one_iff.2 (Int.ofNat_le.2 (hp.verifiable.chain.linked.mem he).2.2)
  refine ⟨hp.verifiable, ?_, hstop, ?_, ?_, ?_⟩
  · rw [List.map_append]
    exact h.tiled.snoc hstart hp.ordered
  all_goals intro q hq
  all_goals rcases List.mem_append.1 hq with hq | hq
  · exact h.read q hq
  · exact ⟨n, List.mem_singleton.1 hq ▸ hp⟩
  · exact h.stop q hq
  · exact List.mem_singleton.1 hq ▸ hstop
  · exact (h.history q hq).trans hg.entries
  · exact List.mem_singleton.1 hq ▸ List.prefix_rfl

/-- An event up to the cursor was there when the page that covers it was read. -/
theorem Sound.mem_log (h : Sound R target reader) (hp : p ∈ reader.pages) {e : Entry CoordinationEvent D}
    (he : e ∈ reader.log.entries) (hcovers : p.Covers e.sequence) : e ∈ p.log.entries := by
  obtain ⟨later, hsplit⟩ := h.history p hp
  obtain ⟨n, hread⟩ := h.read p hp
  have hlinked := h.verifiable.chain.linked
  rw [← hsplit] at hlinked he
  refine (List.mem_append.1 he).resolve_right fun hlater => ?_
  have hpast := ((hlinked.rest hread.verifiable.chain.linked).mem hlater).2.1
  exact absurd (hcovers.2.trans (h.stop p hp)) (not_le_of_gt (Int.ofNat_lt.2 hpast))

/-- What was delivered of an event that a page covers. -/
theorem Sound.delivered (h : Sound R target reader) (hp : p ∈ reader.pages) {e : Entry CoordinationEvent D}
    (he : e ∈ reader.log.entries) (ht : e.body.targetBranch = some target) (hcovers : p.Covers e.sequence) :
    reader.deliveries.filter (fun d => eventNumber d = e.sequence) =
      if p.includeAcknowledged = true ∨ SQLiteCoordinationRepository.acknowledged target p.log e = false then
        [sequenced e]
      else [] := by
  obtain ⟨n, hread⟩ := h.read p hp
  have hpage : p.toPage ∈ reader.pages.map InboxPage.toPage := List.mem_map_of_mem hp
  have hitems := hread.mem_items (h.mem_log hp he hcovers) ht hcovers
  split
  · rename_i hack
    exact h.tiled.once hpage (hitems.2 hack)
  · rename_i hack
    refine h.tiled.never hpage hcovers fun a ha hsame => hack (hitems.1 ?_)
    -- an entry of the page with the same number is the same entry
    have hnodup : (p.log.entries.map fun e => e.sequence).Nodup :=
      List.pairwise_map.2 (hread.verifiable.chain.linked.sorted.imp ne_of_lt)
    obtain ⟨e', he', -, -, -, rfl⟩ := mem_wanted.1 (List.mem_of_mem_take (hread.items ▸ ha))
    rwa [List.inj_on_of_nodup_map hnodup he' (h.mem_log hp he hcovers) (Int.ofNat_inj.1 hsame)] at ha

variable [DecidableEq D]

theorem Sound.step (h : Sound R (inbox actor targetBranch) reader) (st : InboxStep) :
    Sound R (inbox actor targetBranch) (reader.step R actor targetBranch st) := by
  cases st with
  | append draft recordTime => exact h.grow (grown_appendOther _ _)
  | read host limit includeAcknowledged others asked verified =>
    obtain ⟨hg, hspec⟩ := coordinationReadInbox_spec R host actor
      ⟨targetBranch, reader.cursor, limit, includeAcknowledged⟩ ⟨reader.log, others, asked, verified, []⟩
    rw [Reader.step]
    cases ho : coordinationReadInbox R host actor ⟨targetBranch, reader.cursor, limit, includeAcknowledged⟩
        ⟨reader.log, others, asked, verified, []⟩ with
    | mk r s' =>
      rw [ho] at hg hspec
      cases r with
      | error e => exact h.grow hg
      | ok r =>
        simp only [commit]
        cases hcursor : r.receipt.paging.cursorOut with
        | none => exact h.grow hg
        | some cursor =>
          obtain ⟨hevents, hout, hmore⟩ := readTemporal_ok (hspec r s' cursor rfl hcursor)
          rw [hcursor, Option.some.injEq] at hout
          refine h.page (p := ⟨⟨reader.cursor, cursor, r.events⟩, s'.log, includeAcknowledged,
            r.receipt.paging.hasMore⟩) hg ⟨hg.verifiable h.verifiable, hevents, hout, hmore⟩ rfl

theorem Sound.run (steps : List InboxStep) :
    Sound R (inbox actor targetBranch) (Reader.run R actor targetBranch steps) := by
  rw [Reader.run]
  suffices h : ∀ reader : Reader D, Sound R (inbox actor targetBranch) reader →
      Sound R (inbox actor targetBranch) (steps.foldl (Reader.step R actor targetBranch) reader) from
    h _ .start
  induction steps with
  | nil => exact fun _ h => h
  | cons st steps ih => exact fun reader h => ih _ (h.step st)

end Reader

/-- However appends and reads interleave, an event of the inbox up to the cursor is covered by a
page, and it is delivered exactly once, in order of sequence, if that page reads acknowledged
events or the target had not acknowledged it when the page was read, and never otherwise. A
page that says that there is no more leaves nothing that was pending then. -/
theorem inbox_paging [DecidableEq D] (R : BusRuntime D) (actor : ActorContext) (targetBranch : Option String)
    (steps : List InboxStep) :
    let reader := Reader.run R actor targetBranch steps
    let target := Reader.inbox actor targetBranch
    (reader.deliveries.Pairwise fun a b => a.eventSequence < b.eventSequence) ∧
    (∀ e ∈ reader.log.entries, (e.sequence : Int) ≤ reader.cursor →
      ∃ p ∈ reader.pages, p.Covers e.sequence) ∧
    (∀ p ∈ reader.pages, p.log.entries <+: reader.log.entries ∧
      (∀ e ∈ reader.log.entries, e.body.targetBranch = some target → p.Covers e.sequence →
        e ∈ p.log.entries ∧ reader.deliveries.filter (fun d => d.eventSequence = e.sequence) =
          if p.includeAcknowledged = true ∨ SQLiteCoordinationRepository.acknowledged target p.log e = false then
            [⟨e.sequence, e.body⟩]
          else []) ∧
      (p.hasMore = some false → ∀ e ∈ p.log.entries, e.body.targetBranch = some target →
        p.stop < e.sequence → p.includeAcknowledged = false ∧
          SQLiteCoordinationRepository.acknowledged target p.log e = true)) := by
  intro reader target
  have h : reader.Sound R target := .run steps
  refine ⟨h.tiled.sorted.imp Int.ofNat_lt.1, fun e he hle => ?_, fun p hp => ⟨h.history p hp,
    fun e he ht hcovers => ?_, fun hmore e he ht hstop => ?_⟩⟩
  · have hpos : (0 : Int) < e.sequence := Int.ofNat_lt.2 (h.verifiable.chain.linked.mem he).2.1
    obtain ⟨_, hpage, hcovers⟩ := h.tiled.covered hpos hle
    obtain ⟨p, hp, rfl⟩ := List.mem_map.1 hpage
    exact ⟨p, hp, hcovers⟩
  · refine ⟨h.mem_log hp he hcovers, ?_⟩
    have hdelivered := h.delivered hp he ht hcovers
    simpa only [eventNumber, Int.ofNat_inj, sequenced] using hdelivered
  · obtain ⟨n, hread⟩ := h.read p hp
    exact hread.pending hmore he ht hstop

end VeraMono
