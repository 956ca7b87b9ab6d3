import VeraMono.Framework.Checks
import VeraMono.Framework.Pool
import VeraMono.Model.SourceTransport

/-!
# A source mutation is an exact compare-and-swap commit

The objects of a repository only grow (`Grown`), so what a mutation read of the expected head
and what it created stay what they are, whatever other writers do to the ref, and its swap
moves the ref from the expected head to the commit it made of it. The tree of that commit is
what the service made of that of the head and the planned updates (`BasedTrees`), which change the
requested paths as asked and no other (`Planned.asAsked`).
-/

namespace VeraMono.SourceTransport

open Framework GitHubSourceMutationTransport

/-! ## The tree of a mutation -/

/-- The tree that the service makes has at each path what the last update of the path asks for, or
else what the base has. -/
def BasedTrees (S : GitHubSourceMutationTransport) : Prop := ∀ t updates t', S.makeTree t updates = some t' →
  ∀ q, t'.file? q = (updates.map GitHubTreeUpdate.change).foldl
    (fun f change => if change.1 = q then change.2 else f) (t.file? q)

def writtenMode (t : GitTree) (path : String) : String :=
  match t.file? path with
  | none => "100644"
  | some file => file.mode

structure AsAsked (S : GitHubSourceMutationTransport) (request : SourceMutationRequest) (t t' : GitTree) : Prop where
  others : ∀ q, q ≠ request.path → request.destinationPath ≠ some q → t'.file? q = t.file? q
  written : request.operation = "WRITE_FILE" → ∃ content, request.content = some content ∧
    t'.file? request.path = some ⟨S.blobSha content.contentBytes, writtenMode t request.path, "blob"⟩
  deleted : request.operation = "DELETE_FILE" → t'.file? request.path = none
  moved : request.operation = "MOVE_FILE" → ∃ file destination, t.file? request.path = some file ∧
    request.destinationPath = some destination ∧ t'.file? request.path = none ∧
    t'.file? destination = some ⟨file.blobSha, file.mode, "blob"⟩

/-- The updates that a request plans for a tree. -/
inductive Planned (S : GitHubSourceMutationTransport) (request : SourceMutationRequest) (t : GitTree)
    (s : GitStore) : List GitHubTreeUpdate → Prop
  | write (content : Content) : request.operation = "WRITE_FILE" → request.destinationPath = none →
      request.content = some content → content.contentBytes ∈ s.blobs →
      Planned S request t s
        [⟨request.path, writtenMode t request.path, "blob", some (S.blobSha content.contentBytes)⟩]
  | delete (file : GitHubPathState) : request.operation = "DELETE_FILE" → request.destinationPath = none →
      t.file? request.path = some file → Planned S request t s [⟨request.path, file.mode, "blob", none⟩]
  | move (file : GitHubPathState) (destination : String) : request.operation = "MOVE_FILE" →
      request.destinationPath = some destination → destination ≠ request.path →
      t.file? request.path = some file →
      Planned S request t s [⟨request.path, file.mode, "blob", none⟩,
        ⟨destination, file.mode, "blob", some file.blobSha⟩]

section Trees
variable {S : GitHubSourceMutationTransport} {request : SourceMutationRequest} {t : GitTree} {s : GitStore}
  {updates : List GitHubTreeUpdate} {path q : String}

/-- The updates change what is asked, and nothing else. -/
theorem Planned.asAsked {t' : GitTree} (hS : BasedTrees S) (h : Planned S request t s updates)
    (ht : S.makeTree t updates = some t') : AsAsked S request t t' := by
  cases h with
  | write content hop hdest hcontent _ =>
    have hfile (q : String) := hS _ _ _ ht q
    simp only [List.map_cons, List.map_nil, List.foldl_cons, List.foldl_nil, GitHubTreeUpdate.change,
      Option.map_some] at hfile
    exact ⟨fun q hq _ => (hfile q).trans (if_neg hq.symm),
      fun _ => ⟨content, hcontent, (hfile _).trans (if_pos rfl)⟩,
      fun h => absurd (hop.symm.trans h) (by decide), fun h => absurd (hop.symm.trans h) (by decide)⟩
  | delete file hop hdest _ =>
    have hfile (q : String) := hS _ _ _ ht q
    simp only [List.map_cons, List.map_nil, List.foldl_cons, List.foldl_nil, GitHubTreeUpdate.change,
      Option.map_none] at hfile
    exact ⟨fun q hq _ => (hfile q).trans (if_neg hq.symm), fun h => absurd (hop.symm.trans h) (by decide),
      fun _ => (hfile _).trans (if_pos rfl), fun h => absurd (hop.symm.trans h) (by decide)⟩
  | move file destination hop hdest hdiff hsource =>
    have hfile (q : String) := hS _ _ _ ht q
    simp only [List.map_cons, List.map_nil, List.foldl_cons, List.foldl_nil, GitHubTreeUpdate.change,
      Option.map_none, Option.map_some] at hfile
    refine ⟨fun q hq hq' => ?_, fun h => absurd (hop.symm.trans h) (by decide),
      fun h => absurd (hop.symm.trans h) (by decide), fun _ => ⟨file, destination, hsource, hdest, ?_, ?_⟩⟩
    · have hne : destination ≠ q := fun heq => hq' (heq ▸ hdest)
      rw [hfile, if_neg hne, if_neg hq.symm]
    · rw [hfile, if_neg hdiff, if_pos rfl]
    · rw [hfile, if_pos rfl]

end Trees

/-! ## What is known of the store -/

structure Grown (s s' : GitStore) : Prop where
  blobs : s.blobs <+: s'.blobs
  trees : s.trees <+: s'.trees
  commits : s.commits <+: s'.commits

/-- What is found among the objects is found ever after. -/
def Lasting (K : GitStore → Prop) : Prop := ∀ s s', Grown s s' → K s → K s'

section Store
variable {S : GitHubSourceMutationTransport} {request : SourceMutationRequest} {t : GitTree} {s s' : GitStore}
  {updates : List GitHubTreeUpdate} {sha : String}

theorem Grown.refl (s : GitStore) : Grown s s := ⟨List.prefix_refl _, List.prefix_refl _, List.prefix_refl _⟩

theorem find?_prefix {α : Type} {p : α → Bool} {l l' : List α} {a : α} (h : l <+: l') (hf : l.find? p = some a) :
    l'.find? p = some a := by
  obtain ⟨l₂, rfl⟩ := h
  rw [List.find?_append, hf, Option.some_or]

theorem commit?_lasting {c : GitCommit} : Lasting fun s => S.commit? sha s = some c :=
  fun _ _ h => find?_prefix h.commits

theorem tree?_lasting : Lasting fun s => S.tree? sha s = some t := fun _ _ h => find?_prefix h.trees

theorem treeAt_eq_some : S.treeAt sha s = some t ↔ ∃ c, S.commit? sha s = some c ∧ S.tree? c.treeSha s = some t :=
  Option.bind_eq_some_iff

theorem treeAt_lasting : Lasting fun s => S.treeAt sha s = some t := fun s s' h ht => by
  obtain ⟨c, hc, ht⟩ := treeAt_eq_some.1 ht
  exact treeAt_eq_some.2 ⟨c, commit?_lasting s s' h hc, tree?_lasting s s' h ht⟩

theorem Lasting.and {K K' : GitStore → Prop} (h : Lasting K) (h' : Lasting K') : Lasting fun s => K s ∧ K' s :=
  fun s s' hs hk => ⟨h s s' hs hk.1, h' s s' hs hk.2⟩

theorem Lasting.const (p : Prop) : Lasting fun _ => p := fun _ _ _ h => h

theorem Lasting.exists {α : Type} {K : α → GitStore → Prop} (h : ∀ a, Lasting (K a)) : Lasting fun s => ∃ a, K a s :=
  fun s s' hs ⟨a, hk⟩ => ⟨a, h a s s' hs hk⟩

theorem planned_lasting : Lasting fun s => Planned S request t s updates := fun s s' h hp => by
  cases hp with
  | write content hop hdest hcontent hblob => exact .write content hop hdest hcontent (h.blobs.subset hblob)
  | delete file hop hdest hfile => exact .delete file hop hdest hfile
  | move file destination hop hdest hdiff hfile => exact .move file destination hop hdest hdiff hfile

/-- The commit that a mutation makes of the expected head. -/
structure Made (S : GitHubSourceMutationTransport) (request : SourceMutationRequest) (t : GitTree)
    (updates : List GitHubTreeUpdate) (t' : GitTree) (c : GitCommit) (s : GitStore) : Prop where
  head : S.treeAt request.expectedRefHead s = some t
  planned : Planned S request t s updates
  made : S.makeTree t updates = some t'
  tree : t' ∈ s.trees
  treeSha : c.treeSha = S.treeSha t'
  parents : c.parents = [request.expectedRefHead]
  commit : c ∈ s.commits

theorem Made.lasting {t' : GitTree} {c : GitCommit} : Lasting (Made S request t updates t' c) := fun s s' h hm =>
  ⟨treeAt_lasting s s' h hm.head, planned_lasting s s' h hm.planned, hm.made, h.trees.subset hm.tree, hm.treeSha,
    hm.parents, h.commits.subset hm.commit⟩

end Store

/-! ## A mutation beside other writers -/

/-- A move of the ref from the expected head to a commit made of it. -/
structure Swaps (S : GitHubSourceMutationTransport) (request : SourceMutationRequest) (new : String)
    (s s' : GitStore) : Prop where
  before : s.ref = some request.expectedRefHead
  after : s'.ref = some new
  child : ∃ c ∈ s.commits, S.commitSha c = new ∧ c.parents = [request.expectedRefHead]

/-- Objects only grow, and a mutation moves the ref by its swap alone. -/
def transportDiscipline (S : GitHubSourceMutationTransport) : Discipline Empty GitStore RepositoryCall where
  inv _ := True
  rely _ _ _ s s' := Grown s s'
  guar c _ _ s s' := Grown s s' ∧ ∀ call, c = .mutate call → s'.ref = s.ref ∨ ∃ new, Swaps S call.request new s s'

/-- No move of the call moved the ref. -/
def Unmoved (h : List (Move Empty GitStore)) : Prop := ∀ m ∈ h, m.after.ref = m.before.ref

/-- The call moved the ref from the expected head to the new one. -/
def Moved (request : SourceMutationRequest) (new : String) (h : List (Move Empty GitStore)) : Prop :=
  ∃ m ∈ h, m.before.ref = some request.expectedRefHead ∧ m.after.ref = some new

/-- An error that blames another writer for the ref comes from a call that did not move it. -/
def Blames (e : TransportFailure) (h : List (Move Empty GitStore)) : Prop :=
  e.kind = .gitHubSourceCASMismatch → Unmoved h

/-- What holds where a part of a mutation ends. -/
def Yields {α : Type} (A : α → List (Move Empty GitStore) → GitStore → Prop) :
    Except TransportFailure α → List (Move Empty GitStore) → GitStore → Prop
  | .ok a => A a
  | .error e => fun h _ => Blames e h

/-- What a mutation that returned has done. -/
def Landed (S : GitHubSourceMutationTransport) (request : SourceMutationRequest)
    (result : SourceMutationTransportResult) (h : List (Move Empty GitStore)) (s : GitStore) : Prop :=
  Moved request result.newRefHead h ∧
    ∃ t updates t' c, Made S request t updates t' c s ∧ S.commitSha c = result.newRefHead

section Triples
variable {S : GitHubSourceMutationTransport} {call : MutationCall} {α β : Type} {fault : Option Fault}
  {P : List (Move Empty GitStore) → Prop} {K : GitStore → Prop} {F : α → GitStore → Prop}
  {f : GitStore → ClientResult α} {k : α → Transported β} {new : String}

abbrev mutationContract (S : GitHubSourceMutationTransport) (call : MutationCall) : Contract Empty GitStore :=
  (transportDiscipline S).contract (.mutate call)

/-- What is known of the own moves and of the objects is stable. -/
theorem stable_lasting (hK : Lasting K) : (mutationContract S call).Stable ∅ fun h s => P h ∧ K s :=
  fun _ s s' _ _ hs hg => ⟨hs.1, hK s s' hg hs.2⟩

/-- An assertion about the own moves that a move which leaves the ref keeps. -/
def Indifferent (P : List (Move Empty GitStore) → Prop) : Prop :=
  ∀ h s s', s'.ref = s.ref → P h → P (⟨.act, s, s'⟩ :: h)

theorem Unmoved.indifferent : Indifferent Unmoved := fun _ _ _ href hu => List.forall_mem_cons.2 ⟨href, hu⟩

theorem Moved.indifferent {request : SourceMutationRequest} : Indifferent (Moved request new) :=
  fun _ _ _ _ ⟨m, hm, hmoved⟩ => ⟨m, List.mem_cons_of_mem _ hm, hmoved⟩

/-- A call that reads or creates objects. -/
structure Extends (K : GitStore → Prop) (f : GitStore → ClientResult α) (F : α → GitStore → Prop) : Prop where
  ok : ∀ s a s', K s → f s = .ok (a, s') → Grown s s' ∧ s'.ref = s.ref ∧ F a s'
  error : ∀ s e, f s = .error e → e.kind = .gitHubAPIError

theorem Extends.committed {s : GitStore} (hf : Extends K f F) (hs : K s) :
    Grown s (Prog.committed (f s) s) ∧ (Prog.committed (f s) s).ref = s.ref := by
  cases hfs : f s with
  | error e => exact ⟨.refl s, rfl⟩
  | ok r =>
    obtain ⟨hg, href, -⟩ := hf.ok s r.1 r.2 hs hfs
    exact ⟨hg, href⟩

theorem client_triple (hP : Indifferent P) (hK : Lasting K) (hF : ∀ a, Lasting (F a)) (hf : Extends K f F) :
    Triple (mutationContract S call) ∅ (fun h s => P h ∧ K s) (client fault f) fun r h s =>
      match r with
      | .ok a => P h ∧ K s ∧ F a s
      | .error e => e.kind = .gitHubAPIError := by
  cases fault with
  | none =>
    refine .txn (stable_lasting hK) (fun r => ?_) (fun h s a s' _ hs hfs => ?_) fun h s e _ hs hfs => ?_
    · cases r with
      | ok a => exact stable_lasting (hK.and (hF a))
      | error e => exact .hist _
    · obtain ⟨hg, href, hfa⟩ := hf.ok s a s' hs.2 hfs
      exact ⟨trivial, ⟨hg, fun _ _ => .inl href⟩, hP h s s' href hs.1, hK s s' hg hs.2, hfa⟩
    · exact ⟨⟨.refl s, fun _ _ => .inl rfl⟩, hf.error s e hfs⟩
  | some fault =>
    cases fault with
    | before message => exact .throw (.hist _) fun _ _ _ _ => rfl
    | after message =>
      intro h s hi hs s' he
      have hs' := (stable_lasting (P := P) hK).env hs he
      obtain ⟨hg, href⟩ := hf.committed hs'.2
      exact ⟨trivial, ⟨hg, fun _ _ => .inl href⟩, fun s'' _ => ⟨rfl, rfl⟩⟩

theorem blames_api {e : TransportFailure} {h : List (Move Empty GitStore)} (hkind : e.kind = .gitHubAPIError) :
    Blames e h := fun hcas => absurd (hkind.symm.trans hcas) (by decide)

theorem yields_stable {A : α → List (Move Empty GitStore) → GitStore → Prop}
    (hA : ∀ a, (mutationContract S call).Stable ∅ (A a)) (r : Except TransportFailure α) :
    (mutationContract S call).Stable ∅ (Yields A r) := by
  cases r with
  | ok a => exact hA a
  | error e => exact .hist _

variable {A : β → List (Move Empty GitStore) → GitStore → Prop}

theorem client_bind
    (hP : Indifferent P) (hK : Lasting K) (hF : ∀ a, Lasting (F a)) (hf : Extends K f F)
    (hk : ∀ a, Triple (mutationContract S call) ∅ (fun h s => P h ∧ K s ∧ F a s) (k a) (Yields A)) :
    Triple (mutationContract S call) ∅ (fun h s => P h ∧ K s) (client fault f >>= k) (Yields A) :=
  .bind (client_triple hP hK hF hf) hk fun _ _ _ _ => blames_api

theorem check_bind {r : Except TransportFailure α}
    (hk : ∀ a, r = .ok a → Triple (mutationContract S call) ∅ (fun h s => Unmoved h ∧ K s) (k a) (Yields A)) :
    Triple (mutationContract S call) ∅ (fun h s => Unmoved h ∧ K s) ((Prog.ofExcept r : Transported α) >>= k)
      (Yields A) := by
  cases r with
  | ok a => exact hk a rfl
  | error e => exact .throw (.hist _) fun h s _ hs _ => hs.1

theorem guard_bind {p : Prop} [Decidable p]
    {e : TransportFailure} {q : Transported β}
    (hq : ¬ p → Triple (mutationContract S call) ∅ (fun h s => Unmoved h ∧ K s) q (Yields A)) :
    Triple (mutationContract S call) ∅ (fun h s => Unmoved h ∧ K s)
      (if p then (throw e : Transported PUnit) >>= fun _ => q else q) (Yields A) :=
  .guard (.hist _) (fun _ _ _ hs _ _ => hs.1) hq

/-! ### The calls of the client -/

theorem getRefHead_extends : Extends K getRefHead fun _ _ => True where
  ok s a s' _ h := by
    rw [getRefHead] at h
    split at h
    · cases h
    · cases h
      exact ⟨.refl s, rfl, trivial⟩
  error s e h := by
    rw [getRefHead] at h
    split at h
    · cases h
      rfl
    · cases h

theorem getCommit_extends {sha : String} : Extends K (S.getCommit sha) fun commit s =>
    ∃ c, S.commit? sha s = some c ∧ commit = ⟨sha, c.treeSha⟩ where
  ok s a s' _ h := by
    rw [getCommit] at h
    split at h
    · cases h
    · next c hc =>
      cases h
      exact ⟨.refl s, rfl, c, hc, rfl⟩
  error s e h := by
    rw [getCommit] at h
    split at h
    · cases h
      rfl
    · cases h

theorem getPath_extends {path sha : String} : Extends K (S.getPath path sha) fun state s =>
    ∃ t, S.treeAt sha s = some t ∧ state = S.pathState t path where
  ok s a s' _ h := by
    rw [getPath] at h
    split at h
    · cases h
    · next t ht =>
      cases h
      exact ⟨.refl s, rfl, t, ht, rfl⟩
  error s e h := by
    rw [getPath] at h
    split at h
    · cases h
      rfl
    · cases h

theorem createBlob_extends {content : ByteArray} : Extends K (S.createBlob content) fun sha s =>
    sha = S.blobSha content ∧ content ∈ s.blobs where
  ok s a s' _ h := by
    cases h
    exact ⟨⟨List.prefix_append _ _, List.prefix_refl _, List.prefix_refl _⟩, rfl, rfl, by simp⟩
  error s e h := by cases h

theorem createTree_extends {sha : String} {updates : List GitHubTreeUpdate} {t : GitTree}
    (hK : ∀ s, K s → S.tree? sha s = some t) : Extends K (S.createTree sha updates) fun treeSha s =>
      ∃ t', S.makeTree t updates = some t' ∧ treeSha = S.treeSha t' ∧ t' ∈ s.trees where
  ok s a s' hs h := by
    rw [createTree, hK s hs] at h
    dsimp only at h
    split at h
    · cases h
    · next t' ht' =>
      cases h
      exact ⟨⟨List.prefix_refl _, List.prefix_append _ _, List.prefix_refl _⟩, rfl, t', ht', rfl, by simp⟩
  error s e h := by
    rw [createTree] at h
    split at h
    · cases h
      rfl
    · split at h <;> cases h
      rfl

theorem createCommit_extends {message treeSha parentSha stamp : String} :
    Extends K (S.createCommit message treeSha parentSha stamp) fun sha s =>
      sha = S.commitSha ⟨message, treeSha, [parentSha], stamp⟩ ∧ ⟨message, treeSha, [parentSha], stamp⟩ ∈ s.commits where
  ok s a s' _ h := by
    cases h
    exact ⟨⟨List.prefix_refl _, List.prefix_refl _, List.prefix_append _ _⟩, rfl, rfl, by simp⟩
  error s e h := by cases h

/-- What a swap does: it moves the ref to the commit that was made, or leaves it. -/
theorem swap_cases (s : GitStore)
    (hmade : ∃ c ∈ s.commits, S.commitSha c = new ∧ c.parents = [call.request.expectedRefHead]) :
    (Swaps S call.request new s { s with ref := some new } ∧
      S.compareAndSwapRef call.request.expectedRefHead new s = .ok (new, { s with ref := some new })) ∨
    S.compareAndSwapRef call.request.expectedRefHead new s = .error S.swapRejected := by
  by_cases href : s.ref = some call.request.expectedRefHead
  · exact .inl ⟨⟨href, rfl, hmade⟩, if_pos href⟩
  · exact .inr (if_neg href)

theorem swap_triple (hK : Lasting K)
    (hmade : ∀ s, K s → ∃ c ∈ s.commits, S.commitSha c = new ∧ c.parents = [call.request.expectedRefHead]) :
    Triple (mutationContract S call) ∅ (fun h s => Unmoved h ∧ K s)
      (client fault (S.compareAndSwapRef call.request.expectedRefHead new)) fun r h s =>
        match r with
        | .ok _ => Moved call.request new h ∧ K s
        | .error e => e.kind = .gitHubSourceCASMismatch → Unmoved h := by
  have hgrown (s : GitStore) : Grown s { s with ref := some new } :=
    ⟨List.prefix_refl _, List.prefix_refl _, List.prefix_refl _⟩
  have hguar {h : List (Move Empty GitStore)} {s s' : GitStore} (hs : Swaps S call.request new s s') :
      ∀ call', RepositoryCall.mutate call = .mutate call' → s'.ref = s.ref ∨ ∃ new, Swaps S call'.request new s s' :=
    fun call' hcall => .inr ⟨new, by cases hcall; exact hs⟩
  cases fault with
  | none =>
    refine .txn (stable_lasting hK) (fun r => ?_) (fun h s a s' _ hs ht => ?_) fun h s e _ hs ht => ?_
    · cases r with
      | ok a => exact stable_lasting hK
      | error e => exact .hist _
    · rcases swap_cases s (hmade s hs.2) with ⟨hswaps, hok⟩ | herr
      · rw [hok] at ht
        cases ht
        exact ⟨trivial, ⟨hgrown s, hguar (h := h) hswaps⟩,
          ⟨_, List.mem_cons_self, hswaps.before, rfl⟩, hK _ _ (hgrown s) hs.2⟩
      · rw [herr] at ht
        cases ht
    · exact ⟨⟨.refl s, fun _ _ => .inl rfl⟩, fun _ => Unmoved.indifferent h s s rfl hs.1⟩
  | some fault =>
    cases fault with
    | before message => exact .throw (.hist _) fun _ _ _ _ hkind => (by cases hkind)
    | after message =>
      intro h s hi hs s' he
      have hs' := (stable_lasting (P := Unmoved) hK).env hs he
      refine ⟨trivial, ?_, fun s'' _ => ⟨rfl, fun hkind => (by cases hkind)⟩⟩
      change Grown s' (Prog.committed (S.compareAndSwapRef _ new s') s') ∧ ∀ call' : MutationCall, _ →
        (Prog.committed (S.compareAndSwapRef _ new s') s').ref = s'.ref ∨
          ∃ new', Swaps S call'.request new' s' (Prog.committed (S.compareAndSwapRef _ new s') s')
      rcases swap_cases s' (hmade s' hs'.2) with ⟨hswaps, hok⟩ | herr
      · rw [hok]
        exact ⟨hgrown s', hguar (h := h) hswaps⟩
      · rw [herr]
        exact ⟨.refl s', fun _ _ => .inl rfl⟩

/-! ### The mutation -/

theorem requireFileState_ok {t : GitTree} {path expectedBlobId label : String} {source : Option GitHubPathState}
    (h : S.requireFileState (S.pathState t path) expectedBlobId label = .ok source) :
    source = t.file? path := by
  cases hf : t.file? path with
  | some file =>
    simp only [requireFileState, pathState, hf] at h
    split at h
    · cases h
    · simp only [ite_error_ok, ↓throw_bind, pure_ok] at h
      exact h.2.2.2.symm ▸ rfl
  | none =>
    by_cases hd : t.IsDirectory path
    · simp only [requireFileState, pathState, hf, hd, if_true] at h
      split at h
      · cases h
      · simp only [ite_error_ok, ↓throw_bind] at h
        exact absurd (by decide) h.1
    · simp only [requireFileState, pathState, hf, hd, if_false] at h
      split at h
      · cases h
        rfl
      · cases h

structure Accepted (request : SourceMutationRequest) : Prop where
  operation : request.operation = "WRITE_FILE" ∨ request.operation = "DELETE_FILE" ∨ request.operation = "MOVE_FILE"
  write : request.operation = "WRITE_FILE" → (∃ content, request.content = some content) ∧ request.destinationPath = none
  delete : request.operation = "DELETE_FILE" → request.destinationPath = none
  move : request.operation = "MOVE_FILE" → ∃ destination, request.destinationPath = some destination ∧
    destination ≠ request.path

theorem requireText_value {value label text : String} (h : requireText value label = .ok text) :
    value ≠ "" ∧ text = value := by
  rw [requireText] at h
  split at h
  · cases h
  · next hne =>
    cases h
    exact ⟨hne, rfl⟩

theorem requireSome_value {value : Option String} {label text : String} (h : requireSome value label = .ok text) :
    value = some text := by
  obtain ⟨hne, rfl⟩ := requireText_value h
  cases value with
  | none => exact absurd rfl hne
  | some value => rfl

theorem validateRequest_ok {request : SourceMutationRequest} (h : S.validateRequest request = .ok ()) :
    Accepted request := by
  simp only [validateRequest, ite_error_ok, ↓throw_bind, not_not, bind_eq_ok] at h
  obtain ⟨-, -, -, operation, hoperation, hin, -, -, -, -, -, -, -, -, -, -, -, -, h⟩ := h
  obtain ⟨-, rfl⟩ := requireText_value hoperation
  have hin : request.operation = "WRITE_FILE" ∨ request.operation = "DELETE_FILE" ∨
      request.operation = "MOVE_FILE" := by simpa using hin
  rcases hin with hop | hop | hop
  · rw [if_pos hop, validateWrite] at h
    have hne : request.operation ≠ "DELETE_FILE" ∧ request.operation ≠ "MOVE_FILE" := by rw [hop]; decide
    refine ⟨.inl hop, fun _ => ?_, fun hd => absurd hd hne.1, fun hm => absurd hm hne.2⟩
    split at h
    · cases h
    · next content hcontent =>
      simp only [bind_eq_ok, ite_error_ok, ↓throw_bind, ite_throw_ok, not_or, Option.not_isSome_iff_eq_none] at h
      obtain ⟨-, -, -, hdest⟩ := h
      exact ⟨⟨content, hcontent⟩, hdest.1.1⟩
  · rw [if_neg (by rw [hop]; decide), if_pos hop, validateDelete] at h
    have hne : request.operation ≠ "WRITE_FILE" ∧ request.operation ≠ "MOVE_FILE" := by rw [hop]; decide
    simp only [ite_error_ok, ↓throw_bind, ite_throw_ok, not_or, Option.not_isSome_iff_eq_none] at h
    exact ⟨.inr (.inl hop), fun hw => absurd hw hne.1, fun _ => h.2.2.2.1.1, fun hm => absurd hm hne.2⟩
  · rw [if_neg (by rw [hop]; decide), if_neg (by rw [hop]; decide), validateMove] at h
    have hne : request.operation ≠ "WRITE_FILE" ∧ request.operation ≠ "DELETE_FILE" := by rw [hop]; decide
    simp only [bind_eq_ok, ite_error_ok, ↓throw_bind] at h
    obtain ⟨-, destination, hdest, hdiff, -⟩ := h
    exact ⟨.inr (.inr hop), fun hw => absurd hw hne.1, fun hd => absurd hd hne.2,
      fun _ => ⟨destination, requireSome_value hdest, hdiff⟩⟩

/-- What the plan of a mutation is made for. -/
def PlannedFor (S : GitHubSourceMutationTransport) (request : SourceMutationRequest) (t : GitTree)
    (K : GitStore → Prop) (plan : Plan) (h : List (Move Empty GitStore)) (s : GitStore) : Prop :=
  Unmoved h ∧ K s ∧ Planned S request t s plan.updates

theorem plan_triple {t : GitTree} (hK : Lasting K) (haccepted : Accepted call.request)
    (hhead : ∀ s, K s → S.treeAt call.request.expectedRefHead s = some t) :
    Triple (mutationContract S call) ∅ (fun h s => Unmoved h ∧ K s) (S.plan call (t.file? call.request.path))
      (Yields (PlannedFor S call.request t K)) := by
  have hstable (r : Except TransportFailure Plan) :
      (mutationContract S call).Stable ∅ (Yields (PlannedFor S call.request t K) r) :=
    yields_stable (fun plan => stable_lasting (hK.and planned_lasting)) r
  have hraised : Triple (mutationContract S call) ∅ (fun h s => Unmoved h ∧ K s) (.raise assertionFailed)
      (Yields (PlannedFor S call.request t K)) :=
    .throw (.hist _) fun h s _ _ hkind => (by cases hkind)
  rcases haccepted.operation with hop | hop | hop
  · rw [GitHubSourceMutationTransport.plan, if_pos hop]
    obtain ⟨⟨content, hcontent⟩, hdest⟩ := haccepted.write hop
    refine client_bind Unmoved.indifferent hK (fun sha => ?_) createBlob_extends fun sha => ?_
    · exact (Lasting.const _).and fun s s' h hin => h.blobs.subset hin
    · refine check_bind fun text _ => .pure (hstable _) ?_
      rintro h s - ⟨hu, hk, rfl, hblob⟩
      rw [hcontent] at hblob ⊢
      exact ⟨hu, hk, .write content hop hdest hcontent hblob⟩
  · rw [GitHubSourceMutationTransport.plan, if_neg (by rw [hop]; decide), if_pos hop]
    cases hfile : t.file? call.request.path with
    | none => exact hraised
    | some file =>
      exact .pure (hstable _) fun h s _ hs => ⟨hs.1, hs.2, .delete file hop (haccepted.delete hop) hfile⟩
  · rw [GitHubSourceMutationTransport.plan, if_neg (by rw [hop]; decide), if_neg (by rw [hop]; decide)]
    obtain ⟨destination, hdest, hdiff⟩ := haccepted.move hop
    cases hfile : t.file? call.request.path with
    | none => exact hraised
    | some file =>
      refine client_bind Unmoved.indifferent hK (fun state => .exists fun t => treeAt_lasting.and (.const _))
        getPath_extends fun state => check_bind fun state' hstate => .pure (hstable _) ?_
      rintro h s - ⟨hu, hk, t', ht', rfl⟩
      obtain rfl : t = t' := Option.some.inj ((hhead s hk).symm.trans ht')
      rw [hdest] at hstate ⊢
      exact ⟨hu, hk, .move file destination hop hdest hdiff hfile⟩

theorem landed_stable {request : SourceMutationRequest} {result : SourceMutationTransportResult} :
    (mutationContract S call).Stable ∅ (Landed S request result) :=
  stable_lasting (.exists fun _ => .exists fun _ => .exists fun _ => .exists fun _ => Made.lasting.and (.const _))

/-- The reads after the swap find the ref moved, or fail. -/
theorem checkAfter_triple (hK : Lasting K) (expectedAfter : List (String × Option String)) :
    Triple (mutationContract S call) ∅ (fun h s => Moved call.request new h ∧ K s)
      (S.checkAfter call new expectedAfter) (Yields fun _ h s => Moved call.request new h ∧ K s) := by
  induction expectedAfter with
  | nil => exact .pure (stable_lasting hK) fun h s _ hs => hs
  | cons entry rest ih =>
    obtain ⟨path, expectedBlob⟩ := entry
    refine client_bind Moved.indifferent hK (fun state => .exists fun t => treeAt_lasting.and (.const _))
      getPath_extends fun state => ?_
    refine Triple.conseq (A := fun h s => Moved call.request new h ∧ K s) ?_ (fun h s _ hs => ⟨hs.1, hs.2.1⟩)
      fun _ _ _ _ hr => hr
    have hraise (message : String) : Triple (mutationContract S call) ∅
        (fun h s => Moved call.request new h ∧ K s) (.raise (transportError message) : Transported Unit)
        (Yields fun _ h s => Moved call.request new h ∧ K s) :=
      .throw (.hist _) fun h s _ _ hcas => (by cases hcas)
    cases expectedBlob with
    | none =>
      cases state with
      | none => exact ih
      | some state => exact hraise _
    | some blob =>
      cases state with
      | none => exact hraise _
      | some state =>
        change Triple _ _ _ (if _ then _ else _) _
        split
        · exact hraise _
        · exact ih

theorem publish_triple {expectedAfter : List (String × Option String)} {t : GitTree}
    {updates : List GitHubTreeUpdate} {t' : GitTree} {c : GitCommit} :
    Triple (mutationContract S call) ∅
      (fun h s => Unmoved h ∧ Made S call.request t updates t' c s)
      (S.publish call expectedAfter (S.commitSha c)) (Yields (Landed S call.request)) := by
  refine .bind (swap_triple Made.lasting fun s hm => ⟨c, hm.commit, rfl, hm.parents⟩) (fun updatedHead => ?_)
    fun _ _ _ _ herr => herr
  refine .guard (.hist _) (fun _ _ _ _ _ hcas => (by cases hcas)) fun _ => ?_
  refine client_bind Moved.indifferent Made.lasting (fun _ => .const _) getRefHead_extends fun observedAfter => ?_
  refine .guard (.hist _) (fun _ _ _ _ _ hcas => (by cases hcas)) fun _ => ?_
  refine Triple.conseq (A := fun h s => Moved call.request (S.commitSha c) h ∧ Made S call.request t updates t' c s)
    ?_ (fun h s _ hs => ⟨hs.1, hs.2.1⟩) fun _ _ _ _ hr => hr
  refine .bind (checkAfter_triple Made.lasting expectedAfter) (fun _ => ?_) fun _ _ _ _ herr => herr
  exact .pure landed_stable fun h s _ hs => ⟨hs.1, t, updates, t', c, hs.2, rfl⟩

/-- A mutation that returns has landed, and one that blames another writer has moved nothing. -/
theorem mutate_triple : Triple (mutationContract S call) ∅ (fun h _ => Unmoved h ∧ True) (S.mutate call)
    (Yields (Landed S call.request)) := by
  refine check_bind fun _ hvalid => ?_
  have haccepted := validateRequest_ok hvalid
  refine client_bind Unmoved.indifferent (.const _) (fun _ => .const _) getRefHead_extends fun observedHead => ?_
  refine guard_bind fun _ => ?_
  refine client_bind Unmoved.indifferent (.and (.const _) (.const _))
    (fun _ => .exists fun _ => commit?_lasting.and (.const _)) getCommit_extends fun commit => ?_
  rintro h s hi ⟨hu, -, c₀, hc₀, rfl⟩
  refine (guard_bind (K := fun s => S.commit? call.request.expectedRefHead s = some c₀) fun _ => ?_) h s hi ⟨hu, hc₀⟩
  refine client_bind Unmoved.indifferent commit?_lasting (fun _ => .exists fun _ => treeAt_lasting.and (.const _))
    getPath_extends fun state => ?_
  rintro h s hi ⟨hu, hc₀, t, ht, rfl⟩
  refine (check_bind (K := fun s => S.commit? call.request.expectedRefHead s = some c₀ ∧
    S.treeAt call.request.expectedRefHead s = some t) fun source hsource => ?_) h s hi ⟨hu, hc₀, ht⟩
  obtain rfl := requireFileState_ok hsource
  refine .bind (plan_triple (commit?_lasting.and treeAt_lasting) haccepted (fun _ hk => hk.2))
    (fun plan => ?_) fun _ _ _ _ herr => herr
  have hplanned : Lasting fun s => (S.commit? call.request.expectedRefHead s = some c₀ ∧
      S.treeAt call.request.expectedRefHead s = some t) ∧ Planned S call.request t s plan.updates :=
    (commit?_lasting.and treeAt_lasting).and planned_lasting
  have htree : ∀ s, (S.commit? call.request.expectedRefHead s = some c₀ ∧
      S.treeAt call.request.expectedRefHead s = some t) ∧ Planned S call.request t s plan.updates →
      S.tree? c₀.treeSha s = some t := by
    rintro s ⟨⟨hc, ht⟩, -⟩
    rwa [treeAt, hc] at ht
  have hcreated (treeSha : String) : Lasting fun s => ∃ t', S.makeTree t plan.updates = some t' ∧
      treeSha = S.treeSha t' ∧ t' ∈ s.trees :=
    .exists fun _ => (Lasting.const _).and ((Lasting.const _).and fun s s' h hin => h.trees.subset hin)
  refine client_bind Unmoved.indifferent hplanned hcreated (createTree_extends htree) fun treeSha => ?_
  have hmaking : Lasting fun s => ((S.commit? call.request.expectedRefHead s = some c₀ ∧
      S.treeAt call.request.expectedRefHead s = some t) ∧ Planned S call.request t s plan.updates) ∧
      ∃ t', S.makeTree t plan.updates = some t' ∧ treeSha = S.treeSha t' ∧ t' ∈ s.trees :=
    hplanned.and (hcreated treeSha)
  refine check_bind fun _ _ => ?_
  refine client_bind Unmoved.indifferent hmaking
    (fun _ => (Lasting.const _).and fun s s' h hin => h.commits.subset hin) createCommit_extends fun newCommit => ?_
  refine check_bind fun _ _ => ?_
  refine client_bind Unmoved.indifferent
    (hmaking.and ((Lasting.const _).and fun s s' h hin => h.commits.subset hin)) (fun _ => .const _)
    getRefHead_extends fun beforeUpdate => ?_
  refine guard_bind fun _ => ?_
  rintro h s hi ⟨hu, ⟨⟨⟨⟨hc, ht⟩, hp⟩, t', hmade, rfl, htree⟩, rfl, hin⟩, -⟩
  exact publish_triple h s hi ⟨hu, ht, hp, hmade, htree, rfl, rfl, hin⟩

end Triples

/-! ## Every run -/

def Parent (S : GitHubSourceMutationTransport) (s : GitStore) (a b : String) : Prop :=
  ∃ c ∈ s.commits, S.commitSha c = b ∧ a ∈ c.parents

def InHistory (S : GitHubSourceMutationTransport) (s : GitStore) (a : String) : Prop :=
  ∃ head, s.ref = some head ∧ Relation.ReflTransGen (Parent S s) a head

/-- No two objects have one hash. -/
structure CollisionFree (S : GitHubSourceMutationTransport) (s : GitStore) : Prop where
  commits : ∀ c ∈ s.commits, ∀ c' ∈ s.commits, S.commitSha c = S.commitSha c' → c = c'
  trees : ∀ t ∈ s.trees, ∀ t' ∈ s.trees, S.treeSha t = S.treeSha t' → t = t'

/-- What each call reaches. -/
def transportPost (S : GitHubSourceMutationTransport) :
    RepositoryCall → Post Empty GitStore TransportFailure (Option SourceMutationTransportResult)
  | .mutate call => fun r _ h s => ∃ r', r = r'.map some ∧ Yields (Landed S call.request) r' h s
  | _ => fun _ _ _ _ => True

section Runs
variable {S : GitHubSourceMutationTransport} {request : SourceMutationRequest} {s s' : GitStore} {new : String}

theorem Grown.parent (h : Grown s s') {a b : String} (hp : Parent S s a b) : Parent S s' a b :=
  hp.imp fun _ hc => ⟨h.commits.subset hc.1, hc.2⟩

theorem Grown.history (h : Grown s s') (href : s'.ref = s.ref) {a : String} (ha : InHistory S s a) :
    InHistory S s' a := by
  obtain ⟨head, hhead, hpath⟩ := ha
  exact ⟨head, href.trans hhead, Relation.ReflTransGen.mono (fun _ _ => h.parent) _ _ hpath⟩

theorem Swaps.history (h : Swaps S request new s s') (hg : Grown s s') {a : String} (ha : InHistory S s a) :
    InHistory S s' a := by
  obtain ⟨head, href, hpath⟩ := ha
  obtain rfl : head = request.expectedRefHead := Option.some.inj (href.symm.trans h.before)
  obtain ⟨c, hc, hsha, hparents⟩ := h.child
  have hpath' : Relation.ReflTransGen (Parent S s') a request.expectedRefHead :=
    Relation.ReflTransGen.mono (fun _ _ => hg.parent) _ _ hpath
  exact ⟨new, h.after, hpath'.tail ⟨c, hg.commits.subset hc, hsha, by simp [hparents]⟩⟩

theorem program_disciplined : Disciplined (transportDiscipline S) (transportPost S) S.program where
  spawn c s _ := by
    cases c with
    | mutate call =>
      refine Safe.mono ((mutate_triple.map some) [] s trivial ⟨fun m hm => (by cases hm), trivial⟩) trivial ?_
      exact fun r held h s _ hr => hr.2
    | addObjects blobs trees commits =>
      refine fun s' _ => ⟨trivial, ⟨⟨List.prefix_append _ _, List.prefix_append _ _, List.prefix_append _ _⟩,
        fun _ hc => (by cases hc)⟩, fun _ _ => trivial⟩
    | moveRef head =>
      exact fun s' _ => ⟨trivial, ⟨⟨List.prefix_refl _, List.prefix_refl _, List.prefix_refl _⟩,
        fun _ hc => (by cases hc)⟩, fun _ _ => trivial⟩
  rely _ _ _ hg := hg.1

theorem find?_of_unique {α : Type} {f : α → String} {l : List α} {a : α} (ha : a ∈ l)
    (hu : ∀ x ∈ l, ∀ y ∈ l, f x = f y → x = y) : (l.find? fun x => f x = f a) = some a := by
  cases h : l.find? fun x => f x = f a with
  | none => exact absurd (by simp) (List.find?_eq_none.1 h a ha)
  | some b =>
    have hb : f b = f a := by simpa using List.find?_some h
    rw [hu b (List.mem_of_find?_eq_some h) a ha hb]

end Runs

/-- A mutation that returns has moved the ref from the expected head to a commit of that head
alone, whose tree is as the request asks; one that blames another writer has not moved the ref;
and the history of the ref keeps its commits. -/
theorem mutation_lands (S : GitHubSourceMutationTransport) (hS : BasedTrees S) (s₀ : GitStore) (es : List (Event RepositoryCall))
    (hfree : CollisionFree S ((Pool.init s₀).run S.program es).store) :
    let P := (Pool.init s₀).run S.program es
    (∀ i call result, P.thread i = some ⟨.mutate call, some (.ret (some result))⟩ →
      (∃ st ∈ P.trace, st.thread = i ∧ st.move.before.ref = some call.request.expectedRefHead ∧
        st.move.after.ref = some result.newRefHead) ∧
      ∃ c t t', S.commit? result.newRefHead P.store = some c ∧ c.parents = [call.request.expectedRefHead] ∧
        S.treeAt call.request.expectedRefHead P.store = some t ∧ S.treeAt result.newRefHead P.store = some t' ∧
        AsAsked S call.request t t') ∧
    (∀ i call e, P.thread i = some ⟨.mutate call, some (.raise e)⟩ → e.kind = .gitHubSourceCASMismatch →
      ∀ st ∈ P.trace, st.thread = i → st.move.after.ref = st.move.before.ref) ∧
    ∀ st ∈ P.trace, ∀ call, st.call = .mutate call →
      ∀ a, InHistory S st.move.before a → InHistory S st.move.after a := by
  intro P
  have hP : Sound (transportDiscipline S) (transportPost S) s₀ P := (Sound.init trivial).run program_disciplined es
  refine ⟨fun i call result hi => ?_, fun i call e hi hkind st hst hth => ?_, fun st hst call hcall a ha => ?_⟩
  · obtain ⟨r', hr', hy⟩ := (hP.safe i _ _ hi) P.store .refl
    cases r' with
    | error e => cases hr'
    | ok result' =>
      obtain rfl : result = result' := Option.some.inj (Except.ok.inj hr')
      obtain ⟨⟨m, hm, hbefore, hafter⟩, t, updates, t', c, hmade, hsha⟩ := hy
      obtain ⟨st, hst, hth, rfl⟩ := mem_hist.1 hm
      refine ⟨⟨st, hst, hth, hbefore, hafter⟩, c, t, t', ?_, hmade.parents,
        hmade.head, ?_, hmade.planned.asAsked hS hmade.made⟩
      · rw [← hsha]
        exact find?_of_unique hmade.commit hfree.commits
      · refine treeAt_eq_some.2 ⟨c, ?_, ?_⟩
        · rw [← hsha]
          exact find?_of_unique hmade.commit hfree.commits
        · rw [hmade.treeSha]
          exact find?_of_unique hmade.tree hfree.trees
  · obtain ⟨r', hr', hy⟩ := (hP.safe i _ _ hi) P.store .refl
    cases r' with
    | ok result => cases hr'
    | error e' =>
      obtain rfl : e = e' := Except.error.inj hr'
      exact hy hkind st.move (mem_hist.2 ⟨st, hst, hth, rfl⟩)
  · obtain ⟨later, earlier, htrace⟩ := List.append_of_mem hst
    obtain ⟨-, -, hguar⟩ := (htrace ▸ hP.valid).split
    cases hk : st.move.kind with
    | acquire l | release l | timeout l => exact l.elim
    | act =>
      obtain ⟨hg, href⟩ := hguar hk
      rcases href call hcall with hsame | ⟨new, hswaps⟩
      · exact hg.history hsame ha
      · exact hswaps.history hg ha

/-! ## A sample -/

def sampleTransport : GitHubSourceMutationTransport where
  repository := "owner/name"
  ref := "main"
  blobSha _ := "blob"
  makeTree t updates := t.update? (updates.map GitHubTreeUpdate.change)
  treeSha t := String.intercalate " " (t.entries.map Prod.fst)
  directorySha _ path := path
  commitSha c := c.stamp
  sha256Hex _ := "digest"
  repr value := value
  swapRejected := casMismatch "exact beforeOid ref compare-and-swap rejected"

/-- A repository with one file. -/
def sampleTree : GitTree where
  entries := [("a", ⟨"old", "100644", "blob"⟩)]
  nodup := List.nodup_singleton _
  apart := by decide

def sampleRepository : GitStore where
  blobs := []
  trees := [sampleTree]
  commits := [⟨"start", "a", [], "head"⟩]
  ref := some "head"

/-- Writes a path of the head that holds nothing. -/
def sampleWrite (path : String) : MutationCall where
  request := {
    schema := "VERA_MONO_SOURCE_MUTATION_REQUEST_V1", mutationId := "mutation", repository := "owner/name"
    ref := "main", subject := "subject", actorRef := "actor", operation := "WRITE_FILE", path
    destinationPath := none, expectedRefHead := "head", expectedBlobId := "ABSENT"
    expectedDestinationBlobId := none, content := some (.text "content"), contentDigest := some "digest" }
  stamp := "new"
  faults _ := none

/-- The ten calls of a write. -/
def sampleEvents (path : String) : List (Event RepositoryCall) :=
  .spawn 0 (.mutate (sampleWrite path)) :: List.replicate 10 (.step 0)

def returned? (P : Pool Empty GitStore TransportFailure (Option SourceMutationTransportResult) RepositoryCall)
    (i : Nat) : Option SourceMutationTransportResult :=
  match P.thread i with
  | some ⟨_, some (.ret result)⟩ => result
  | _ => none

theorem mutation_lands_sample :
    let P := (Pool.init sampleRepository).run sampleTransport.program (sampleEvents "b")
    (returned? P 0).map (fun r => (r.previousRefHead, r.newRefHead)) = some ("head", "new") ∧
    ∀ result, P.thread 0 = some ⟨.mutate (sampleWrite "b"), some (.ret (some result))⟩ →
      ∃ t t', sampleTransport.treeAt "head" P.store = some t ∧
        sampleTransport.treeAt result.newRefHead P.store = some t' ∧
        AsAsked sampleTransport (sampleWrite "b").request t t' := by
  intro P
  have hfree : CollisionFree sampleTransport P.store := ⟨by decide +kernel, by decide +kernel⟩
  refine ⟨by decide +kernel, fun result hi => ?_⟩
  obtain ⟨-, c, t, t', -, -, ht, ht', hasked⟩ := (mutation_lands sampleTransport
    (fun _ _ _ h _ => FileTree.file?_of_update? h) sampleRepository _ hfree).1 0 _ result hi
  exact ⟨t, t', ht, ht', hasked⟩

end VeraMono.SourceTransport
