import VeraMono.Model.Ingest
import VeraMono.Proof.IntranelJson

/-!
# What an ingest call knows of its store

The files of a store say what their paths say (`Fits`): a content has the digest of its path, a
receipt is one that its id was drawn for, a derivation and a record come after what they refer
to. An item fixes everything of its record that another call could compare (`outcome`), so calls
that race for a path write the same there, or find that they agree (`ingest_triple`).
-/

namespace VeraMono.Ingest

open Framework Intranel

variable {V : Type} {py : Library V}

/-! ## Digests -/

theorem canonicalDigest_meaning (hsha : Function.Injective py.sha256) {a b : Json} (ha : a.Readable)
    (hb : b.Readable) (h : canonicalDigest py a = canonicalDigest py b) : meaning a = meaning b := by
  obtain ⟨hmeana, -, hreada⟩ := sortKeys_ok a ha
  obtain ⟨hmeanb, -, hreadb⟩ := sortKeys_ok b hb
  have hdumps := hsha h
  rw [String.toByteArray_inj, String.ofList_inj] at hdumps
  rw [← hmeana, ← hmeanb, dumps_injective hreada hreadb hdumps]

/-- What two objects that say the same say of a key. -/
theorem entry_of_meaning {es fs : List (String × Json)} (h : meaning (.obj es) = meaning (.obj fs)) (key : String) :
    entriesMeaning es key = entriesMeaning fs key := congrFun (Datum.obj.inj h) key

theorem optionalText_readable (t : Option String) : (optionalText t).Readable := by cases t <;> trivial

theorem optionalText_meaning {t u : Option String} (h : meaning (optionalText t) = meaning (optionalText u)) :
    t = u := by
  cases t <;> cases u <;> simp_all [optionalText, meaning]

theorem identityMaterial_readable (source : SourceRef) : source.identityMaterial.Readable :=
  ⟨by simp, trivial, trivial, trivial, trivial, source.sourceIdentity.property, trivial⟩

theorem identityMaterial_meaning {a b : SourceRef} (h : meaning a.identityMaterial = meaning b.identityMaterial) :
    a.semantics = b.semantics := by
  have hkey := entry_of_meaning h
  have hscheme := hkey "scheme"
  have hlocator := hkey "locator"
  have hadapter := hkey "adapter"
  have hversion := hkey "adapter_version"
  have hidentity := hkey "source_identity"
  simp only [entriesMeaning, meaning, String.reduceEq, if_true, if_false, Option.some.injEq, Datum.text.injEq]
    at hscheme hlocator hadapter hversion hidentity
  obtain ⟨hmeana, hsorteda, -⟩ := sortKeys_ok _ a.sourceIdentity.property
  obtain ⟨hmeanb, hsortedb, -⟩ := sortKeys_ok _ b.sourceIdentity.property
  have hsorted : Intranel.sortKeys a.sourceIdentity.json = Intranel.sortKeys b.sourceIdentity.json :=
    meaning_inj _ _ hsorteda hsortedb (hmeana.trans (hidentity.trans hmeanb.symm))
  simp only [SourceRef.semantics, hscheme, hlocator, hadapter, hversion, hsorted]

theorem identity_entries {source source' claimed claimed' : Json} {raw raw' policyId policyId' : String}
    (h : meaning (.obj [("schema", .str "INGEST_IDENTITY_V1"), ("source", source), ("raw_sha256", .str raw),
        ("claimed_media_type", claimed), ("normalizer_version", .str normalizerVersion),
        ("policy_id", .str policyId)]) =
      meaning (.obj [("schema", .str "INGEST_IDENTITY_V1"), ("source", source'), ("raw_sha256", .str raw'),
        ("claimed_media_type", claimed'), ("normalizer_version", .str normalizerVersion),
        ("policy_id", .str policyId')])) :
    meaning source = meaning source' ∧ raw = raw' ∧ meaning claimed = meaning claimed' ∧ policyId = policyId' := by
  have hkey := entry_of_meaning h
  have hsource : meaning source = meaning source' := by simpa [entriesMeaning] using hkey "source"
  have hraw : raw = raw' := by simpa [entriesMeaning, meaning] using hkey "raw_sha256"
  have hclaimed : meaning claimed = meaning claimed' := by simpa [entriesMeaning] using hkey "claimed_media_type"
  have hpolicy : policyId = policyId' := by simpa [entriesMeaning, meaning] using hkey "policy_id"
  exact ⟨hsource, hraw, hclaimed, hpolicy⟩

/-- An ingest id stands for one source, content, media claim and policy. -/
theorem ingestIdOf_inj (hsha : Function.Injective py.sha256) {a b : SourceRef} {raw raw' : String}
    {claimed claimed' : Option String} {policyId policyId' : String}
    (h : ingestIdOf py a raw claimed policyId = ingestIdOf py b raw' claimed' policyId') :
    a.semantics = b.semantics ∧ raw = raw' ∧ claimed = claimed' ∧ policyId = policyId' := by
  have hread (a : SourceRef) (raw : String) (claimed : Option String) (policyId : String) :
      (Json.obj [("schema", .str "INGEST_IDENTITY_V1"), ("source", a.identityMaterial), ("raw_sha256", .str raw),
        ("claimed_media_type", optionalText claimed), ("normalizer_version", .str normalizerVersion),
        ("policy_id", .str policyId)]).Readable :=
    ⟨by simp, trivial, identityMaterial_readable a, trivial, optionalText_readable claimed, trivial, trivial, trivial⟩
  obtain ⟨hsource, hraw, hclaimed, hpolicy⟩ :=
    identity_entries (canonicalDigest_meaning hsha (hread ..) (hread ..) h)
  exact ⟨identityMaterial_meaning hsource, hraw, optionalText_meaning hclaimed, hpolicy⟩

theorem derivationId_inj (hsha : Function.Injective py.sha256) {parent parent' child child' : String}
    (h : derivationId py parent child = derivationId py parent' child') : parent = parent' ∧ child = child' := by
  have hread (parent child : String) : (Json.obj [("relation", .str "NORMALIZED_FROM"), ("parent", .str parent),
      ("child", .str child), ("normalizer_version", .str normalizerVersion)]).Readable :=
    ⟨by simp, trivial, trivial, trivial, trivial, trivial⟩
  rw [derivationId, derivationId] at h
  have hkey := entry_of_meaning (canonicalDigest_meaning hsha (hread ..) (hread ..) h)
  have hparent := hkey "parent"
  have hchild := hkey "child"
  simp only [entriesMeaning, meaning, String.reduceEq, if_true, if_false, Option.some.injEq, Datum.text.injEq]
    at hparent hchild
  exact ⟨hparent, hchild⟩

/-! ## The record of an item -/

/-- The digest of the derivation of an artifact, where it is another content. -/
def derivationsOf (py : Library V) (item : Item) (artifact : Artifact) : List String :=
  if artifact.artifactId ≠ item.rawArtifact.artifactId then
    [derivationId py item.rawArtifact.artifactId artifact.artifactId] else []

/-- The accepted record of an item, but for its receipts. -/
def Item.accepted (py : Library V) (item : Item) : Option ByteArray → IngestRecord
  | none => item.record none .accepted [] [] none
  | some normalized =>
    let artifact := artifactOf py normalized item.effectiveMedia "normalized"
    item.record (some artifact) .accepted [] (derivationsOf py item artifact) none

/-- The record of an item, but for its receipts. -/
def Item.outcome (py : Library V) (item : Item) : Except PyError IngestRecord :=
  if (item.claimed = some "application/json" ∨ item.claimed = some "text/json") ∧
      item.sniffed ≠ "application/json" then
    .ok (item.record none .quarantined [] [] (some claimedJsonError))
  else
    match normalizeBytes py item.acquisition.data item.effectiveMedia with
    | .error e =>
      if e.kind = .normalizationError then .ok (item.record none .quarantined [] [] (some e.message)) else .error e
    | .ok normalized => .ok (item.accepted py normalized)

/-- What two items with one ingest id share. -/
structure Alike (a b : Item) : Prop where
  ingestId : a.ingestId = b.ingestId
  source : a.acquisition.source.semantics = b.acquisition.source.semantics
  data : a.acquisition.data = b.acquisition.data
  sniffed : a.sniffed = b.sniffed
  claimed : a.claimed = b.claimed
  raw : a.rawArtifact = b.rawArtifact
  policyId : a.policyId = b.policyId

def IsItem (py : Library V) (item : Item) : Prop :=
  ∃ acquisition policyId sniffed, sniffMediaType py acquisition.data = .ok sniffed ∧
    item = itemOf py acquisition policyId sniffed

theorem alike_of_ingestId (hsha : Function.Injective py.sha256) {a b : Item} (ha : IsItem py a) (hb : IsItem py b)
    (h : a.ingestId = b.ingestId) : Alike a b := by
  obtain ⟨acq, policyId, sniffed, hsniffed, rfl⟩ := ha
  obtain ⟨acq', policyId', sniffed', hsniffed', rfl⟩ := hb
  obtain ⟨hsource, hraw, hclaimed, hpolicy⟩ := ingestIdOf_inj hsha h
  have hdata := hsha hraw
  rw [hdata, hsniffed', Except.ok.injEq] at hsniffed
  refine ⟨h, hsource, hdata, hsniffed.symm, hclaimed, ?_, hpolicy⟩
  simp only [itemOf, hdata, hsniffed]

section
variable {a b : Item}

theorem Alike.record (h : Alike a b) {normalized : Option Artifact} {status : IngestStatus}
    {receipts receipts' derivations : List String}
    {error : Option String} : (a.record normalized status receipts derivations error).semantics =
      (b.record normalized status receipts' derivations error).semantics := by
  simp only [IngestRecord.semantics, Item.record, Item.warnings, Item.claim, h.ingestId, h.source, h.raw, h.policyId,
    h.claimed, h.sniffed]

theorem Alike.effectiveMedia (h : Alike a b) : a.effectiveMedia = b.effectiveMedia := by
  rw [Item.effectiveMedia, Item.effectiveMedia, Item.claim, Item.claim, h.claimed, h.sniffed]

theorem Alike.accepted (h : Alike a b) (normalized : Option ByteArray) :
    (a.accepted py normalized).semantics = (b.accepted py normalized).semantics := by
  cases normalized with
  | none => exact h.record
  | some normalized =>
    simp only [Item.accepted, derivationsOf, h.effectiveMedia, h.raw]
    exact h.record

theorem Alike.outcome (h : Alike a b) {r r' : IngestRecord} (hr : a.outcome py = .ok r)
    (hr' : b.outcome py = .ok r') : r.semantics = r'.semantics := by
  rw [Item.outcome, h.claimed, h.sniffed, h.data, h.effectiveMedia] at hr
  rw [Item.outcome] at hr'
  split at hr
  · next hc =>
    rw [if_pos hc] at hr'
    cases hr
    cases hr'
    exact h.record
  · next hc =>
    rw [if_neg hc] at hr'
    cases hn : normalizeBytes py b.acquisition.data b.effectiveMedia with
    | ok normalized =>
      rw [hn] at hr hr'
      cases hr
      cases hr'
      exact h.accepted normalized
    | error e =>
      rw [hn] at hr hr'
      dsimp only at hr hr'
      split at hr
      · next he =>
        rw [if_pos he] at hr'
        cases hr
        cases hr'
        exact h.record
      · cases hr

end

/-! ## What the files say -/

open Framework.Shelf (Lasting Filled Avoids Filling)

/-- A derivation comes after its contents and its receipt. -/
structure Derived (py : Library V) (s : FileSystemStore) (id : String) (derivation : Derivation) : Prop where
  derivationId : derivation.derivationId = id
  relation : derivation.relation = "NORMALIZED_FROM"
  digest : id = Ingest.derivationId py derivation.parentArtifactId derivation.childArtifactId
  receipt : Filled (.receipt derivation.receiptId) s
  contents : ∀ artifactId ∈ [derivation.parentArtifactId, derivation.childArtifactId],
    ∃ digest, artifactId = "sha256:" ++ digest ∧ Filled (.blob digest) s

def ArtifactStored (py : Library V) (s : FileSystemStore) (artifact : Artifact) : Prop :=
  ∃ data, artifact = artifactOf py data artifact.mediaType artifact.kind ∧
    s.cells (.blob artifact.sha256) = some (.blob data)

/-- A record comes after all that it refers to. -/
structure Backed (py : Library V) (s : FileSystemStore) (record : IngestRecord) : Prop where
  raw : ArtifactStored py s record.rawArtifact
  normalized : ∀ artifact, record.normalizedArtifact = some artifact → ArtifactStored py s artifact
  derivations : ∀ id ∈ record.derivationIds, Filled (.derivation id) s
  receipts : ∀ id ∈ record.receiptIds, Filled (.receipt id) s

/-- A record is that of an item with its ingest id. -/
structure Evidenced (py : Library V) (s : FileSystemStore) (id : String) (record : IngestRecord) : Prop where
  ingestId : record.ingestId = id
  outcome : ∃ item r, IsItem py item ∧ item.ingestId = id ∧ item.outcome py = .ok r ∧ record.semantics = r.semantics
  backed : Backed py s record

/-- What a file says is what its path says. -/
def Fits (py : Library V) (s : FileSystemStore) : Path → File → Prop
  | .blob digest, .blob data => py.sha256 data = digest
  | .receipt id, .receipt receipt => receipt ∈ s.log ∧ receipt.receiptId = id
  | .derivation id, .derivation derivation => Derived py s id derivation
  | .record id, .record record => Evidenced py s id record
  | _, _ => False

/-- The invariant of a store. -/
structure Consistent (py : Library V) (s : FileSystemStore) : Prop where
  files : ∀ path file, s.cells path = some file → Fits py s path file
  drawn : ∀ (n : Nat) receipt, s.log[n]? = some receipt → receipt.receiptId = py.uuid n

theorem Derived.lasting {id : String} {derivation : Derivation} : Lasting fun s => Derived py s id derivation :=
  fun s s' hg h => { h with
    receipt := Shelf.lasting_filled s s' hg h.receipt
    contents := fun artifactId hid =>
      (h.contents artifactId hid).imp fun _ hd => ⟨hd.1, Shelf.lasting_filled s s' hg hd.2⟩ }

theorem ArtifactStored.lasting {artifact : Artifact} : Lasting fun s => ArtifactStored py s artifact :=
  .exists fun _ => (Lasting.const _).and Shelf.lasting_cell

theorem Backed.lasting {record : IngestRecord} : Lasting fun s => Backed py s record := fun s s' hg h =>
  ⟨ArtifactStored.lasting s s' hg h.raw, fun a ha => ArtifactStored.lasting s s' hg (h.normalized a ha),
    fun id hid => Shelf.lasting_filled s s' hg (h.derivations id hid),
    fun id hid => Shelf.lasting_filled s s' hg (h.receipts id hid)⟩

theorem Fits.lasting {path : Path} {file : File} : Lasting fun s => Fits py s path file := fun s s' hg h => by
  cases path <;> cases file <;> first | exact h.elim | skip
  case blob.blob => exact h
  case receipt.receipt => exact ⟨hg.log.mem h.1, h.2⟩
  case derivation.derivation => exact Derived.lasting s s' hg h
  case record.record => exact { h with backed := Backed.lasting s s' hg h.backed }

theorem consistent_empty : Consistent py emptyStore :=
  ⟨fun _ _ h => (by cases h), fun _ _ h => (by cases h)⟩

theorem Consistent.put {s : FileSystemStore} (h : Consistent py s) {path : Path} {file : File}
    (hfits : Fits py s path file) (hnone : s.cells path = none) : Consistent py (s.put path file) := by
  have hg := Shelf.Grown.put file hnone
  refine ⟨fun q f hq => ?_, h.drawn⟩
  by_cases heq : q = path
  · subst heq
    rw [Shelf.put_self] at hq
    cases hq
    exact Fits.lasting s _ hg hfits
  · rw [Shelf.put_other s file heq] at hq
    exact Fits.lasting s _ hg (h.files q f hq)

theorem Consistent.receipt_eq {s : FileSystemStore} (h : Consistent py s) (huuid : Function.Injective py.uuid)
    {r r' : StageReceipt} (hr : r ∈ s.log) (hr' : r' ∈ s.log) (hid : r.receiptId = r'.receiptId) : r = r' := by
  obtain ⟨n, hn⟩ := List.mem_iff_getElem?.1 hr
  obtain ⟨n', hn'⟩ := List.mem_iff_getElem?.1 hr'
  rw [h.drawn n r hn, h.drawn n' r' hn'] at hid
  rw [huuid hid, hn'] at hn
  exact (Option.some.inj hn).symm

theorem Consistent.draw {s : FileSystemStore} (h : Consistent py s) {receipt : StageReceipt}
    (hid : receipt.receiptId = py.uuid s.log.length) : Consistent py { s with log := s.log ++ [receipt] } := by
  have hg : Shelf.Grown s { s with log := s.log ++ [receipt] } := ⟨fun _ _ hp => hp, List.prefix_append _ _⟩
  refine ⟨fun path file hp => Fits.lasting s _ hg (h.files path file hp), fun n r hn => ?_⟩
  rw [List.getElem?_append] at hn
  split at hn
  · exact h.drawn n r hn
  · next hle =>
    rw [List.getElem?_singleton] at hn
    split at hn
    · next hzero =>
      obtain rfl : receipt = r := Option.some.inj hn
      rw [hid, show n = s.log.length by omega]
    · cases hn

/-! ## The steps of a call -/

def IsRecord (path : Path) : Prop := ∃ id, path = .record id

/-- A part of a call that creates no record and goes on. -/
def Steady {α : Type} (py : Library V) (K : FileSystemStore → Prop) (op : Stored α) (F : α → FileSystemStore → Prop) :
    Prop :=
  Triple (Shelf.contract (Consistent py)) ∅ (fun h s => Avoids IsRecord h ∧ K s) op
    fun r h s => ∃ a, r = .ok a ∧ Avoids IsRecord h ∧ K s ∧ F a s

section Steps
variable {α β : Type} {K : FileSystemStore → Prop} {F : α → FileSystemStore → Prop} {op : Stored α}
  {Q : Except IngestError β → List (Move Empty FileSystemStore) → FileSystemStore → Prop} {path : Path} {file : File}

theorem Steady.bind {k : α → Stored β} (hop : Steady py K op F)
    (hk : ∀ a, Triple (Shelf.contract (Consistent py)) ∅ (fun h s => Avoids IsRecord h ∧ K s ∧ F a s) (k a) Q) :
    Triple (Shelf.contract (Consistent py)) ∅ (fun h s => Avoids IsRecord h ∧ K s) (op >>= k) Q := by
  refine Triple.bind hop (fun a => ?_) fun e h s _ he => ?_
  · rintro h s hi ⟨a', ha, hs⟩
    obtain rfl : a = a' := Except.ok.inj ha
    exact hk a h s hi hs
  · obtain ⟨a, ha, -⟩ := he
    cases ha

theorem steady_stable (hK : Lasting K) (hF : ∀ a, Lasting (F a)) (r : Except IngestError α) :
    (Shelf.contract (Consistent py)).Stable ∅ fun h s => ∃ a, r = .ok a ∧ Avoids IsRecord h ∧ K s ∧ F a s :=
  .exists fun a => .and (.hist fun _ => r = .ok a) (Shelf.stable_lasting (hK.and (hF a)))

theorem atomicCreate_triple (hK : Lasting K) (hfits : ∀ s, K s → Fits py s path file) :
    Triple (Shelf.contract (Consistent py)) ∅ (fun h s => Avoids IsRecord h ∧ K s) (atomicCreate path file)
      (Shelf.Created IsRecord K path file (.storeConflict ("immutable path collision: " ++ path.posix))) :=
  Shelf.createOnce_triple hK fun s hs hk => hs.put (hfits s hk)

theorem create_steady (hK : Lasting K) (hrecord : ¬ IsRecord path) (hfits : ∀ s, K s → Fits py s path file)
    (hagree : ∀ s w, Consistent py s → K s → s.cells path = some w → w = file) :
    Steady py K (atomicCreate path file) fun _ s => s.cells path = some file := by
  refine Triple.conseq (atomicCreate_triple hK hfits) (fun _ _ _ hs => hs)
    fun r h s hi hr => ?_
  rcases hr with ⟨rfl, hfilling, hk, hcell⟩ | ⟨hA, hk, w, hw, rfl⟩
  · exact ⟨true, rfl, hfilling.avoids hrecord, hk, hcell⟩
  · rw [if_pos (hagree s w hi hk hw)]
    exact ⟨false, rfl, hA, hk, hagree s w hi hk hw ▸ hw⟩

theorem putBlob_steady (hsha : Function.Injective py.sha256) {data : ByteArray} {mediaType kind : String}
    (hK : Lasting K) : Steady py K (putBlob py data mediaType kind) fun a s =>
      a.1 = artifactOf py data mediaType kind ∧ s.cells (.blob (py.sha256 data)) = some (.blob data) := by
  refine Steady.bind (create_steady hK (fun ⟨_, h⟩ => by cases h) (fun _ _ => rfl) fun s w hs _ hw => ?_)
    fun created => ?_
  · have hfits := hs.files _ _ hw
    cases w with
    | blob other => exact congrArg File.blob (hsha hfits)
    | record | receipt | derivation => exact hfits.elim
  · exact .pure (.exists fun _ => .and (.hist fun _ => _)
      (Shelf.stable_lasting (hK.and ((Lasting.const _).and Shelf.lasting_cell))))
      fun h s _ hs => ⟨_, rfl, hs.1, hs.2.1, rfl, hs.2.2⟩

variable {item : Item} {receiptIds : List String} {call : IngestCall} {record : IngestRecord}
  {s : FileSystemStore} {existing : IngestRecord} {id : String}

theorem receipt_steady (huuid : Function.Injective py.uuid) {n : Nat} {ingestId : Option String}
    {stage outcome : String} {inputIds outputIds : List String} {details : Json} (hK : Lasting K) :
    Steady py K (receipt py call n ingestId stage outcome inputIds outputIds details)
      fun r s => Filled (.receipt r.receiptId) s := by
  refine Steady.bind (F := fun r s => r ∈ s.log) ?_ fun receipt => ?_
  · exact Shelf.record_triple hK fun s hs => hs.draw rfl
  · have hlasting : Lasting fun s => K s ∧ receipt ∈ s.log := hK.and Shelf.lasting_logged
    refine Steady.bind (create_steady hlasting (fun ⟨_, h⟩ => by cases h) (fun s hs => ⟨hs.2, rfl⟩)
      fun s w hs hk hw => ?_) fun _ => ?_
    · have hfits := hs.files _ _ hw
      cases w with
      | receipt other => exact congrArg File.receipt (hs.receipt_eq huuid hfits.1 hk.2 hfits.2)
      | record | blob | derivation => exact hfits.elim
    · exact .pure (.exists fun _ => .and (.hist fun _ => _) (Shelf.stable_lasting (hK.and Shelf.lasting_filled)))
        fun h s _ hs => ⟨_, rfl, hs.1, hs.2.1.1, _, hs.2.2⟩

theorem find_steady (hK : Lasting K) (hfilled : ∀ s, K s → Filled path s) {F : α → FileSystemStore → Prop}
    {k : Option File → Stored α} (hF : ∀ a, Lasting (F a))
    (hk : ∀ w, (∃ a, k (some w) = Pure.pure a ∧ ∀ s, K s → s.cells path = some w → F a s) ∨
      ∀ s, Consistent py s → s.cells path ≠ some w) : Steady py K (Shelf.look path >>= k) F := by
  refine Triple.bind (Triple.conseq (Shelf.find_triple hK) (fun _ s _ hs => ⟨hs.1, hs.2, hfilled s hs.2⟩)
    fun _ _ _ _ hr => hr) (fun found => ?_) fun e h s _ he => ?_
  · rintro h s hi ⟨w, hfound, hA, hks, hw⟩
    obtain rfl : found = some w := Except.ok.inj hfound
    rcases hk w with ⟨a, hka, hf⟩ | hne
    · rw [hka]
      exact Triple.pure (P := fun h s => Avoids IsRecord h ∧ K s ∧ s.cells path = some w) (steady_stable hK hF _)
        (fun h s _ hs => ⟨a, rfl, hs.1, hs.2.1, hf s hs.2.1 hs.2.2⟩) h s hi ⟨hA, hks, hw⟩
    · exact absurd hw (hne s hi)
  · obtain ⟨w, hw, -⟩ := he
    cases hw

theorem getRecord_steady (hK : Lasting K) (hfilled : ∀ s, K s → Filled (.record id) s) :
    Steady py K (getRecord id) fun record s => s.cells (.record id) = some (.record record) := by
  refine find_steady hK hfilled (fun _ => Shelf.lasting_cell) fun w => ?_
  cases w with
  | record record => exact .inl ⟨record, rfl, fun s _ hw => hw⟩
  | blob | receipt | derivation => exact .inr fun s hs hw => (hs.files _ _ hw).elim

theorem getDerivation_steady (hK : Lasting K) (hfilled : ∀ s, K s → Filled (.derivation id) s) :
    Steady py K (getDerivation id) fun derivation s => s.cells (.derivation id) = some (.derivation derivation) := by
  refine find_steady hK hfilled (fun _ => Shelf.lasting_cell) fun w => ?_
  cases w with
  | derivation derivation => exact .inl ⟨derivation, rfl, fun s _ hw => hw⟩
  | blob | receipt | record => exact .inr fun s hs hw => (hs.files _ _ hw).elim

/-- What a handler may assume of a file that could not be created. -/
theorem conflict_of_created {γ : Type} {f : Bool → γ} {conflict e : IngestError}
    {h : List (Move Empty FileSystemStore)}
    (hr : ∃ r, Except.error e = r.map f ∧ Shelf.Created IsRecord K path file conflict r h s) :
    e = conflict ∧ Avoids IsRecord h ∧ K s ∧ Filled path s := by
  obtain ⟨r, hr, hcreated⟩ := hr
  cases r with
  | ok b => cases hr
  | error e' =>
    cases hr
    rcases hcreated with ⟨hok, -⟩ | ⟨hA, hk, w, hw, he⟩
    · cases hok
    · split at he
      · cases he
      · exact ⟨Except.error.inj he, hA, hk, w, hw⟩

theorem derive_steady (hsha : Function.Injective py.sha256) {d : Derivation} (hK : Lasting K)
    (hd : ∀ s, K s → Derived py s d.derivationId d) :
    Steady py K (derive d) fun _ s => Filled (.derivation d.derivationId) s := by
  have hlasting : Lasting fun s => K s ∧ Filled (.derivation d.derivationId) s := hK.and Shelf.lasting_filled
  have hfits : ∀ s, K s → Fits py s (.derivation d.derivationId) (.derivation d) := hd
  refine Triple.tryCatch ((atomicCreate_triple hK hfits).map fun _ => ()) (fun e => ?_) fun a h s _ hr => ?_
  · rintro h s hi hr
    obtain ⟨rfl, hA, hk, hfilled⟩ := conflict_of_created hr
    refine Steady.bind (getDerivation_steady hlasting fun s hs => hs.2) (fun existing => ?_) h s hi ⟨hA, hk, hfilled⟩
    rintro h s hi ⟨hA, hk, hcell⟩
    have hthere : Derived py s d.derivationId existing := hi.files _ _ hcell
    have hasked := hd s hk.1
    obtain ⟨hparent, hchild⟩ := derivationId_inj hsha (hthere.digest.symm.trans hasked.digest)
    have hsame : ¬ (existing.relation ≠ d.relation ∨ existing.parentArtifactId ≠ d.parentArtifactId ∨
        existing.childArtifactId ≠ d.childArtifactId) := by
      simp only [hthere.relation, hasked.relation, hparent, hchild, ne_eq, not_true_eq_false, or_self,
        not_false_eq_true]
    rw [if_neg hsame]
    exact Triple.pure (P := fun h s => Avoids IsRecord h ∧ K s ∧ Filled (.derivation d.derivationId) s)
      (steady_stable hK (fun _ => Shelf.lasting_filled) _) (fun h s _ hs => ⟨(), rfl, hs⟩) h s hi ⟨hA, hk⟩
  · obtain ⟨r, hr, hcreated⟩ := hr
    rcases hcreated with ⟨-, hfilling, hk, hcell⟩ | ⟨hA, hk, w, hw, -⟩
    · exact ⟨a, rfl, hfilling.avoids (fun ⟨_, h⟩ => by cases h), hk, _, hcell⟩
    · exact ⟨a, rfl, hA, hk, w, hw⟩

/-! ## The record -/

def RecordOf (py : Library V) (item : Item) (record : IngestRecord) : Prop :=
  ∃ r, item.outcome py = .ok r ∧ record.semantics = r.semantics

theorem outcome_eq {r : IngestRecord} (h : item.outcome py = .ok r) :
    ∃ normalized status derivationIds error, r = item.record normalized status [] derivationIds error ∧
      (status = .accepted ∨ status = .quarantined) := by
  rw [Item.outcome] at h
  split at h
  · cases h
    exact ⟨_, _, _, _, rfl, .inr rfl⟩
  · split at h
    · split at h
      · cases h
        exact ⟨_, _, _, _, rfl, .inr rfl⟩
      · cases h
    · next normalized _ =>
      cases h
      cases normalized with
      | none => exact ⟨_, _, _, _, rfl, .inl rfl⟩
      | some normalized => exact ⟨_, _, _, _, rfl, .inl rfl⟩

theorem RecordOf.fields (h : RecordOf py item record) :
    record.ingestId = item.ingestId ∧ record.rawArtifact = item.rawArtifact ∧ record.warnings = item.warnings ∧
      (record.status = .accepted ∨ record.status = .quarantined) := by
  obtain ⟨r, hr, hsem⟩ := h
  obtain ⟨normalized, status, derivationIds, error, rfl, hstatus⟩ := outcome_eq hr
  have hstatus' : record.status = status := congrArg RecordSemantics.status hsem
  exact ⟨congrArg RecordSemantics.ingestId hsem, congrArg RecordSemantics.rawArtifact hsem,
    congrArg RecordSemantics.warnings hsem, hstatus' ▸ hstatus⟩

theorem Evidenced.agrees (hsha : Function.Injective py.sha256)
    (h : Evidenced py s item.ingestId existing) (hitem : IsItem py item)
    (hrecord : RecordOf py item record) : existing.semantics = record.semantics := by
  obtain ⟨other, r, hother, hid, hr, hsem⟩ := h.outcome
  obtain ⟨r', hr', hsem'⟩ := hrecord
  rw [hsem, hsem', (alike_of_ingestId hsha hother hitem hid).outcome hr hr']

theorem Evidenced.recordOf (hsha : Function.Injective py.sha256)
    (h : Evidenced py s item.ingestId existing) (hitem : IsItem py item) :
    existing.ingestId = item.ingestId ∧ existing.rawArtifact = item.rawArtifact ∧
      (existing.status = .accepted ∨ existing.status = .quarantined) := by
  obtain ⟨other, r, hother, hid, hr, hsem⟩ := h.outcome
  obtain ⟨hid', hraw, -, hstatus⟩ := RecordOf.fields ⟨r, hr, hsem⟩
  exact ⟨h.ingestId, hraw.trans (alike_of_ingestId hsha hother hitem hid).raw, hstatus⟩

theorem existingRecord_steady (hsha : Function.Injective py.sha256)
    (conflict : IngestError) (hitem : IsItem py item) (hrecord : RecordOf py item record) (hK : Lasting K)
    (hfilled : ∀ s, K s → Filled (.record item.ingestId) s) :
    Steady py K (existingRecord record conflict) fun existing s =>
      s.cells (.record item.ingestId) = some (.record existing) := by
  have hid := hrecord.fields.1
  refine Steady.bind (getRecord_steady hK (hid ▸ hfilled)) fun existing => ?_
  rintro h s hi ⟨hA, hk, hcell⟩
  rw [hid] at hcell
  have hsame : existing.semantics = record.semantics := Evidenced.agrees hsha (hi.files _ _ hcell) hitem hrecord
  rw [if_neg (not_not.2 hsame)]
  exact Triple.pure
    (P := fun h s => Avoids IsRecord h ∧ K s ∧ s.cells (.record item.ingestId) = some (.record existing))
    (steady_stable hK (fun _ => Shelf.lasting_cell) _) (fun h s _ hs => ⟨existing, rfl, hs⟩) h s hi ⟨hA, hk, hcell⟩

/-- What a call knows when its record is there: it created it, or found one. -/
def Put (K : FileSystemStore → Prop) (id : String) (record : IngestRecord)
    (r : Except IngestError (Option IngestRecord)) (h : List (Move Empty FileSystemStore))
    (s : FileSystemStore) : Prop :=
  (r = .ok none ∧ Filling IsRecord (.record id) (.record record) h ∧ K s ∧
    s.cells (.record id) = some (.record record)) ∨
  ∃ existing, r = .ok (some existing) ∧ Avoids IsRecord h ∧ K s ∧ s.cells (.record id) = some (.record existing)

theorem put_stable (hK : Lasting K) (r : Except IngestError (Option IngestRecord)) :
    (Shelf.contract (Consistent py)).Stable ∅ (Put K id record r) :=
  .or (.and (.hist fun _ => r = .ok none) (Shelf.stable_lasting (hK.and Shelf.lasting_cell)))
    (.exists fun existing => .and (.hist fun _ => r = .ok (some existing))
      (Shelf.stable_lasting (hK.and Shelf.lasting_cell)))

/-- What the creation of a record and the handler of its conflict come to. -/
def Tried (K : FileSystemStore → Prop) (id : String) (record : IngestRecord)
    (r : Except IngestError (Bool ⊕ IngestRecord)) (h : List (Move Empty FileSystemStore))
    (s : FileSystemStore) : Prop :=
  (r = .ok (.inl true) ∧ Filling IsRecord (.record id) (.record record) h ∧ K s ∧
    s.cells (.record id) = some (.record record)) ∨
  (r = .ok (.inl false) ∧ Avoids IsRecord h ∧ K s ∧ Filled (.record id) s) ∨
  ∃ existing, r = .ok (.inr existing) ∧ Avoids IsRecord h ∧ K s ∧ s.cells (.record id) = some (.record existing)

theorem putRecordOrExisting_triple (hsha : Function.Injective py.sha256)
    (hitem : IsItem py item) (hrecord : RecordOf py item record) (hK : Lasting K)
    (hbacked : ∀ s, K s → Backed py s record) :
    Triple (Shelf.contract (Consistent py)) ∅ (fun h s => Avoids IsRecord h ∧ K s) (putRecordOrExisting record)
      (Put K item.ingestId record) := by
  have hid := hrecord.fields.1
  have hfits : ∀ s, K s → Fits py s (.record record.ingestId) (.record record) := fun s hk =>
    ⟨rfl, by obtain ⟨r, hr, hsem⟩ := hrecord; exact ⟨item, r, hitem, hid.symm, hr, hsem⟩, hbacked s hk⟩
  have hlasting : Lasting fun s => K s ∧ Filled (.record item.ingestId) s := hK.and Shelf.lasting_filled
  have hexisting (conflict : IngestError) := existingRecord_steady hsha conflict hitem hrecord hlasting
    fun s hs => hs.2
  refine Triple.bind (Q := Tried K item.ingestId record) ?_ (fun put => ?_) fun e h s _ hr => ?_
  · refine Triple.tryCatch ((atomicCreate_triple hK hfits).map Sum.inl) (fun e => ?_) fun put h s _ hr => ?_
    · rintro h s hi hr
      obtain ⟨rfl, hA, hk, hfilled⟩ := conflict_of_created hr
      refine Triple.conseq ((hexisting _).map Sum.inr) (fun _ _ _ hs => hs) (fun r h s _ hr => ?_) h s hi
        ⟨hA, hk, hid ▸ hfilled⟩
      obtain ⟨_, rfl, existing, rfl, hA, hk, hcell⟩ := hr
      exact .inr (.inr ⟨existing, rfl, hA, hk.1, hcell⟩)
    · obtain ⟨r, hr, hcreated⟩ := hr
      rw [hid] at hcreated
      rcases hcreated with ⟨rfl, hfilling, hk, hcell⟩ | ⟨hA, hk, w, hw, rfl⟩
      · cases hr
        exact .inl ⟨rfl, hfilling, hk, hcell⟩
      · split at hr
        · cases hr
          exact .inr (.inl ⟨rfl, hA, hk, w, hw⟩)
        · cases hr
  · match put with
    | .inl true =>
      refine Triple.pure (put_stable hK _) fun h s _ hr => ?_
      rcases hr with ⟨-, hs⟩ | ⟨hr, -⟩ | ⟨_, hr, -⟩
      · exact .inl ⟨rfl, hs⟩
      · cases hr
      · cases hr
    | .inl false =>
      refine Triple.conseq (A := fun h s => Avoids IsRecord h ∧ K s ∧ Filled (.record item.ingestId) s)
        (Steady.bind (hexisting _) fun existing => Triple.pure (put_stable hK _) fun h s _ hs =>
          .inr ⟨existing, rfl, hs.1, hs.2.1.1, hs.2.2⟩) (fun h s _ hr => ?_) fun _ _ _ _ hr => hr
      rcases hr with ⟨hr, -⟩ | ⟨-, hs⟩ | ⟨_, hr, -⟩
      · cases hr
      · exact hs
      · cases hr
    | .inr existing =>
      refine Triple.pure (put_stable hK _) fun h s _ hr => ?_
      rcases hr with ⟨hr, -⟩ | ⟨hr, -⟩ | ⟨existing', hr, hs⟩
      · cases hr
      · cases hr
      · cases hr
        exact .inr ⟨existing, rfl, hs⟩
  · rcases hr with ⟨hr, -⟩ | ⟨hr, -⟩ | ⟨_, hr, -⟩ <;> cases hr

/-! ## What a call reports -/

/-- A result that reports the record that was there. -/
structure Duplicate (result : IngestResult) (record : IngestRecord) : Prop where
  ingestId : result.ingestId = some record.ingestId
  status : result.status = if record.status = .accepted then .duplicate else record.status
  flagged : record.status ≠ .accepted → "duplicate_existing_record" ∈ result.warnings
  raw : result.rawArtifact = some record.rawArtifact
  normalized : result.normalizedArtifact = record.normalizedArtifact
  error : result.error = record.error

/-- What is known where a call ends. -/
inductive Reported (py : Library V) : Except IngestError IngestResult → List (Move Empty FileSystemStore) →
    FileSystemStore → Prop
  | failed {e : IngestError} {h : List (Move Empty FileSystemStore)} {s : FileSystemStore} :
      Avoids IsRecord h → (∀ message, e ≠ .storeConflict message) → Reported py (.error e) h s
  | apart {result : IngestResult} {h : List (Move Empty FileSystemStore)} {s : FileSystemStore} :
      result.ingestId = none → Avoids IsRecord h → Reported py (.ok result) h s
  | fresh {record : IngestRecord} {h : List (Move Empty FileSystemStore)} {s : FileSystemStore} :
      s.cells (.record record.ingestId) = some (.record record) →
      Filling IsRecord (.record record.ingestId) (.record record) h → Reported py (.ok record.result) h s
  | duplicate {result : IngestResult} {record : IngestRecord} {h : List (Move Empty FileSystemStore)}
      {s : FileSystemStore} : s.cells (.record record.ingestId) = some (.record record) → Avoids IsRecord h →
      Duplicate result record → Reported py (.ok result) h s

theorem reported_stable (r : Except IngestError IngestResult) :
    (Shelf.contract (Consistent py)).Stable ∅ (Reported py r) := fun h s s' _ _ hs hg => by
  cases hs with
  | failed hA he => exact .failed hA he
  | apart hid hA => exact .apart hid hA
  | fresh hcell hfilling => exact .fresh (hg.cells _ _ hcell) hfilling
  | duplicate hcell hA hdup => exact .duplicate (hg.cells _ _ hcell) hA hdup

theorem resultFromExisting_triple (huuid : Function.Injective py.uuid)
    {receiptIds warnings : List String} (hK : Lasting K)
    (hcell : ∀ s, K s → s.cells (.record item.ingestId) = some (.record existing))
    (hid : existing.ingestId = item.ingestId) (hraw : existing.rawArtifact = item.rawArtifact)
    (hstatus : existing.status = .accepted ∨ existing.status = .quarantined) :
    Triple (Shelf.contract (Consistent py)) ∅ (fun h s => Avoids IsRecord h ∧ K s)
      (resultFromExisting py call item.ingestId item.acquisition item.rawArtifact receiptIds warnings existing)
      (Reported py) := by
  refine Steady.bind (receipt_steady huuid hK) fun duplicate => Triple.pure (reported_stable _) fun h s _ hs => ?_
  have hcell := hcell s hs.2.1
  rw [← hid] at hcell
  refine .duplicate hcell hs.1 ⟨by rw [hid], rfl, fun haccepted => ?_, by rw [hraw], rfl, rfl⟩
  have hquarantined := hstatus.resolve_left haccepted
  simp [hquarantined]

theorem commit_triple (hsha : Function.Injective py.sha256) (huuid : Function.Injective py.uuid)
    (hitem : IsItem py item) (hrecord : RecordOf py item record)
    (hK : Lasting K)
    (hbacked : ∀ s, K s → Backed py s record) :
    Triple (Shelf.contract (Consistent py)) ∅ (fun h s => Avoids IsRecord h ∧ K s) (commit py call item record)
      (Reported py) := by
  refine Triple.bind (putRecordOrExisting_triple hsha hitem hrecord hK hbacked) (fun existing => ?_)
    fun e h s _ hr => ?_
  · cases existing with
    | none =>
      refine Triple.pure (reported_stable _) fun h s _ hr => ?_
      rcases hr with ⟨-, hfilling, -, hcell⟩ | ⟨_, hr, -⟩
      · rw [← hrecord.fields.1] at hfilling hcell
        exact .fresh hcell hfilling
      · cases hr
    | some existing =>
      rintro h s hi hr
      rcases hr with ⟨hr, -⟩ | ⟨existing', hr, hA, hk, hcell⟩
      · cases hr
      · obtain rfl : existing = existing' := Option.some.inj (Except.ok.inj hr)
        obtain ⟨hid, hraw, hstatus⟩ := Evidenced.recordOf hsha (hi.files _ _ hcell) hitem
        exact resultFromExisting_triple huuid Shelf.lasting_cell (fun _ hs => hs) hid hraw hstatus h s hi ⟨hA, hcell⟩
  · rcases hr with ⟨hr, -⟩ | ⟨_, hr, -⟩ <;> cases hr

/-- What a call has stored of an item before its record. -/
def Gathered (py : Library V) (item : Item) (receiptIds : List String) (s : FileSystemStore) : Prop :=
  s.cells (.blob (py.sha256 item.acquisition.data)) = some (.blob item.acquisition.data) ∧
    ∀ id ∈ receiptIds, Filled (.receipt id) s

theorem Gathered.lasting : Lasting (Gathered py item receiptIds) :=
  Shelf.lasting_cell.and (.forall fun _ => .forall fun _ => Shelf.lasting_filled)

theorem Gathered.snoc
    (h : Gathered py item receiptIds s) (hid : Filled (.receipt id) s) : Gathered py item (receiptIds ++ [id]) s := by
  refine ⟨h.1, fun id' hid' => ?_⟩
  rcases List.mem_append.1 hid' with hid' | hid'
  · exact h.2 id' hid'
  · rw [List.mem_singleton.1 hid']
    exact hid

theorem Gathered.raw (h : Gathered py item receiptIds s)
    (hitem : IsItem py item) : ArtifactStored py s item.rawArtifact := by
  obtain ⟨acquisition, policyId, sniffed, -, rfl⟩ := hitem
  exact ⟨acquisition.data, rfl, h.1⟩

theorem quarantine_triple (hsha : Function.Injective py.sha256) (huuid : Function.Injective py.uuid)
    {error : String} (hitem : IsItem py item)
    (houtcome : item.outcome py = .ok (item.record none .quarantined [] [] (some error))) :
    Triple (Shelf.contract (Consistent py)) ∅ (fun h s => Avoids IsRecord h ∧ Gathered py item receiptIds s)
      (quarantine py call item receiptIds error) (Reported py) := by
  refine Steady.bind (receipt_steady huuid Gathered.lasting) fun receipt => ?_
  refine Triple.conseq (commit_triple (K := Gathered py item (receiptIds ++ [receipt.receiptId])) hsha huuid hitem
    ⟨_, houtcome, rfl⟩ Gathered.lasting fun s hs => ?_) (fun _ s _ hs => ⟨hs.1, hs.2.1.snoc hs.2.2⟩)
    fun _ _ _ _ hr => hr
  exact ⟨hs.raw hitem, fun _ h => (by cases h), fun _ h => (by cases h), hs.2⟩

structure StoredFor (py : Library V) (item : Item) (normalized : Option ByteArray) (n : Normalized)
    (s : FileSystemStore) :
    Prop where
  gathered : Gathered py item n.receiptIds s
  artifact : n.artifact = (item.accepted py normalized).normalizedArtifact
  derivationIds : n.derivationIds = (item.accepted py normalized).derivationIds
  stored : ∀ a, n.artifact = some a → ArtifactStored py s a
  derived : ∀ id ∈ n.derivationIds, Filled (.derivation id) s

theorem StoredFor.lasting {normalized : Option ByteArray} {n : Normalized} :
    Lasting (StoredFor py item normalized n) := fun s s' hg h =>
  { h with
    gathered := Gathered.lasting s s' hg h.gathered
    stored := fun a ha => ArtifactStored.lasting s s' hg (h.stored a ha)
    derived := fun id hid => Shelf.lasting_filled s s' hg (h.derived id hid) }

theorem storeNormalized_steady (hsha : Function.Injective py.sha256) (huuid : Function.Injective py.uuid)
    (hitem : IsItem py item)
    (normalized : Option ByteArray) :
    Steady py (Gathered py item receiptIds) (storeNormalized py call item receiptIds normalized)
      (StoredFor py item normalized) := by
  have hstable (r : Except IngestError Normalized) : (Shelf.contract (Consistent py)).Stable ∅ fun h s =>
      ∃ n, r = .ok n ∧ Avoids IsRecord h ∧ Gathered py item receiptIds s ∧ StoredFor py item normalized n s :=
    steady_stable Gathered.lasting (fun _ => StoredFor.lasting) r
  cases normalized with
  | none =>
    refine Steady.bind (receipt_steady huuid Gathered.lasting) fun receipt =>
      Triple.pure (hstable _) fun h s _ hs => ?_
    exact ⟨_, rfl, hs.1, hs.2.1, hs.2.1.snoc hs.2.2, rfl, rfl, fun _ ha => (by cases ha), fun _ hid => (by cases hid)⟩
  | some normalized =>
    refine Steady.bind (putBlob_steady hsha Gathered.lasting) fun stored => ?_
    obtain ⟨artifact, created⟩ := stored
    rintro h s hi ⟨hA, hg, hartifact, hblob⟩
    obtain rfl : artifact = artifactOf py normalized item.effectiveMedia "normalized" := hartifact
    have hlasting : Lasting fun s => Gathered py item receiptIds s ∧
        s.cells (.blob (py.sha256 normalized)) = some (.blob normalized) := Gathered.lasting.and Shelf.lasting_cell
    refine Steady.bind (receipt_steady huuid hlasting) (fun receipt => ?_) h s hi ⟨hA, hg, hblob⟩
    split
    · next hne =>
      have hids : derivationsOf py item (artifactOf py normalized item.effectiveMedia "normalized") =
          [derivationId py item.rawArtifact.artifactId ("sha256:" ++ py.sha256 normalized)] := if_pos hne
      refine Steady.bind (derive_steady hsha (hlasting.and Shelf.lasting_filled) fun s hs => ⟨rfl, rfl, rfl, hs.2, ?_⟩)
        fun _ => Triple.pure (hstable _) fun h s _ hs => ?_
      · obtain ⟨acquisition, policyId, sniffed, -, rfl⟩ := hitem
        intro artifactId hid
        rcases List.mem_cons.1 hid with rfl | hid
        · exact ⟨_, rfl, _, hs.1.1.1⟩
        · rw [List.mem_singleton.1 hid]
          exact ⟨_, rfl, _, hs.1.2⟩
      · obtain ⟨hA, ⟨⟨hg, hblob⟩, hreceipt⟩, hderived⟩ := hs
        refine ⟨_, rfl, hA, hg, hg.snoc hreceipt, rfl, hids.symm, fun a ha => ?_, fun id hid => ?_⟩
        · cases ha
          exact ⟨normalized, rfl, hblob⟩
        · rw [List.mem_singleton.1 hid]
          exact hderived
    · next heq =>
      have hids : derivationsOf py item (artifactOf py normalized item.effectiveMedia "normalized") = [] := if_neg heq
      refine Triple.pure (hstable _) fun h s _ hs => ?_
      refine ⟨_, rfl, hs.1, hs.2.1.1, hs.2.1.1.snoc hs.2.2, rfl, hids.symm, fun a ha => ?_,
        fun _ hid => (by cases hid)⟩
      cases ha
      exact ⟨normalized, rfl, hs.2.1.2⟩

theorem accept_triple (hsha : Function.Injective py.sha256) (huuid : Function.Injective py.uuid)
    {normalized : Option ByteArray} {n : Normalized} (hitem : IsItem py item)
    (houtcome : item.outcome py = .ok (item.accepted py normalized)) :
    Triple (Shelf.contract (Consistent py)) ∅ (fun h s => Avoids IsRecord h ∧ StoredFor py item normalized n s)
      (accept py call item n) (Reported py) := by
  rintro h s hi ⟨hA, hn⟩
  refine Steady.bind (receipt_steady huuid StoredFor.lasting) (fun ready => ?_) h s hi ⟨hA, hn⟩
  have hrecord : RecordOf py item
      (item.record n.artifact .accepted (n.receiptIds ++ [ready.receiptId]) n.derivationIds none) := by
    refine ⟨_, houtcome, ?_⟩
    rw [hn.artifact, hn.derivationIds]
    cases normalized <;> rfl
  refine commit_triple hsha huuid hitem hrecord (StoredFor.lasting.and Shelf.lasting_filled) fun s hs => ?_
  exact ⟨hs.1.gathered.raw hitem, hs.1.stored, hs.1.derived, (hs.1.gathered.snoc hs.2).2⟩

theorem normalizeItem_triple (hsha : Function.Injective py.sha256) (huuid : Function.Injective py.uuid)
    (hitem : IsItem py item) :
    Triple (Shelf.contract (Consistent py)) ∅ (fun h s => Avoids IsRecord h ∧ Gathered py item receiptIds s)
      (normalizeItem py call item receiptIds) (Reported py) := by
  rw [normalizeItem]
  split
  · next hclaim => exact quarantine_triple hsha huuid hitem (if_pos hclaim)
  · next hclaim =>
    have houtcome := if_neg hclaim ▸ (Item.outcome.eq_1 py item)
    cases hn : normalizeBytes py item.acquisition.data item.effectiveMedia with
    | error e =>
      rw [hn] at houtcome
      dsimp only at houtcome ⊢
      split
      · next he =>
        rw [if_pos he] at houtcome
        exact quarantine_triple hsha huuid hitem houtcome
      · exact Triple.throw (reported_stable _) fun h s _ hs => .failed hs.1 fun message h => by cases h
    | ok normalized =>
      rw [hn] at houtcome
      refine Steady.bind (storeNormalized_steady hsha huuid hitem normalized) fun n => ?_
      exact Triple.conseq (accept_triple hsha huuid hitem houtcome) (fun _ _ _ hs => ⟨hs.1, hs.2.2⟩)
        fun _ _ _ _ hr => hr

/-- A part that raises before any record. -/
theorem check_bind {α : Type} {K : FileSystemStore → Prop} {r : Except PyError α} {k : α → Stored IngestResult}
    (hk : ∀ a, r = .ok a → Triple (Shelf.contract (Consistent py)) ∅ (fun h s => Avoids IsRecord h ∧ K s) (k a)
      (Reported py)) :
    Triple (Shelf.contract (Consistent py)) ∅ (fun h s => Avoids IsRecord h ∧ K s)
      ((Prog.ofExcept (r.mapError .raised) : Stored α) >>= k) (Reported py) := by
  cases r with
  | ok a => exact hk a rfl
  | error e => exact Triple.throw (reported_stable _) fun h s _ hs => .failed hs.1 fun message h => by cases h

theorem ingestContent_triple (hsha : Function.Injective py.sha256) (huuid : Function.Injective py.uuid)
    {acquisition : Acquisition} :
    Triple (Shelf.contract (Consistent py)) ∅
      (fun h s => Avoids IsRecord h ∧ ∀ id ∈ receiptIds, Filled (.receipt id) s)
      (ingestContent py call acquisition receiptIds) (Reported py) := by
  have hreceipts : Lasting fun s : FileSystemStore => ∀ id ∈ receiptIds, Filled (.receipt id) s :=
    .forall fun _ => .forall fun _ => Shelf.lasting_filled
  refine check_bind fun sniffed hsniffed => ?_
  have hitem : IsItem py (itemOf py acquisition call.policy.policyId sniffed) :=
    ⟨acquisition, call.policy.policyId, sniffed, hsniffed, rfl⟩
  refine Steady.bind (putBlob_steady hsha hreceipts) fun stored => ?_
  obtain ⟨artifact, created⟩ := stored
  rintro h s hi ⟨hA, hr, hartifact, hblob⟩
  obtain rfl : artifact = artifactOf py acquisition.data sniffed "raw" := hartifact
  refine Steady.bind (receipt_steady huuid (hreceipts.and Shelf.lasting_cell)) (fun receipt => ?_) h s hi
    ⟨hA, hr, hblob⟩
  refine Triple.conseq (A := fun h s => Avoids IsRecord h ∧
    Gathered py (itemOf py acquisition call.policy.policyId sniffed) (receiptIds ++ [receipt.receiptId]) s) ?_
    (fun h s _ hs => ⟨hs.1, Gathered.snoc ⟨hs.2.1.2, hs.2.1.1⟩ hs.2.2⟩) fun _ _ _ _ hr => hr
  refine Triple.bind (Shelf.look_triple Gathered.lasting) (fun present => ?_) fun e h s _ he => ?_
  · rintro h s hi ⟨present', hpresent, hA, hg, hcell⟩
    obtain rfl : present = present' := Except.ok.inj hpresent
    cases present with
    | none => exact normalizeItem_triple hsha huuid hitem h s hi ⟨hA, hg⟩
    | some file =>
      refine Steady.bind (getRecord_steady (Gathered.lasting.and Shelf.lasting_filled) fun s hs => hs.2)
        (fun existing => ?_) h s hi ⟨hA, hg, file, hcell file rfl⟩
      rintro h s hi ⟨hA, hk, hrecord⟩
      obtain ⟨hid, hraw, hstatus⟩ := Evidenced.recordOf hsha (hi.files _ _ hrecord) hitem
      exact resultFromExisting_triple huuid Shelf.lasting_cell (fun _ hs => hs) hid hraw hstatus h s hi ⟨hA, hrecord⟩
  · obtain ⟨_, hfound, -⟩ := he
    cases hfound

theorem ingestAcquisition_triple (hsha : Function.Injective py.sha256) (huuid : Function.Injective py.uuid)
    {acquisition : Acquisition} :
    Triple (Shelf.contract (Consistent py)) ∅ (fun h _ => Avoids IsRecord h ∧ True)
      (ingestAcquisition py call acquisition) (Reported py) := by
  refine Steady.bind (receipt_steady huuid (.const True)) fun acquired => ?_
  split
  · exact Steady.bind (receipt_steady huuid ((Lasting.const True).and Shelf.lasting_filled)) fun bounds =>
      Triple.pure (reported_stable _) fun h s _ hs => .apart rfl hs.1
  · refine Triple.conseq (ingestContent_triple hsha huuid) (fun h s _ hs => ⟨hs.1, fun id hid => ?_⟩)
      fun _ _ _ _ hr => hr
    rw [List.mem_singleton.1 hid]
    exact hs.2.2

theorem ingest_triple (hsha : Function.Injective py.sha256) (huuid : Function.Injective py.uuid) (call : IngestCall) :
    Triple (Shelf.contract (Consistent py)) ∅ (fun h _ => Avoids IsRecord h ∧ True) (ingest py call) (Reported py) := by
  rw [ingest]
  cases call.acquired with
  | acquisition acquisition => exact ingestAcquisition_triple hsha huuid
  | policyRejected message => exact Triple.pure (reported_stable _) fun h s _ hs => .apart rfl hs.1
  | acquisitionFailed message => exact Triple.pure (reported_stable _) fun h s _ hs => .apart rfl hs.1
  | raised error =>
    exact Triple.throw (reported_stable _) fun h s _ hs => .failed hs.1 fun message h => by cases h

end Steps

end VeraMono.Ingest
