import VeraMono.Framework.FileTree
import VeraMono.Framework.Prog

/-!
# The GitHub source transport

`github_source_transport.py`: `GitHubSourceMutationTransport.mutate`, which changes one file of a
repository, or moves it, by objects that it creates and a compare-and-swap of the ref. The client
is the object store of the repository (`GitStore`), with one atom for each call; a call may also
fail, before it does anything or after (`Fault`).
-/

namespace VeraMono.SourceTransport

open Framework

inductive TransportErrorClass
  | gitHubSourceTransportError | gitHubSourceCASMismatch | gitHubAPIError | assertionError
  deriving DecidableEq

structure TransportFailure where
  kind : TransportErrorClass
  message : String
  deriving DecidableEq

def transportError (message : String) : TransportFailure := ⟨.gitHubSourceTransportError, message⟩

def casMismatch (message : String) : TransportFailure := ⟨.gitHubSourceCASMismatch, message⟩

structure GitHubCommitState where
  commitSha : String
  treeSha : String

structure GitHubPathState where
  blobSha : String
  mode : String
  objectType : String
  deriving DecidableEq

structure GitHubTreeUpdate where
  path : String
  mode : String
  objectType : String
  sha : Option String

/-! ## The object store -/

abbrev GitTree := FileTree GitHubPathState

/-- A commit; `stamp` is who made it and when. -/
structure GitCommit where
  message : String
  treeSha : String
  parents : List String
  stamp : String
  deriving DecidableEq

/-- The objects of the repository, and the commit that the ref names. -/
structure GitStore where
  blobs : List ByteArray
  trees : List GitTree
  commits : List GitCommit
  ref : Option String

/-- A transport, with the hashes of Git. `makeTree` is what the service makes of a base tree and
updates, if it does not refuse them, and `swapRejected` what the client raises when the ref is not
what a swap expects. -/
structure GitHubSourceMutationTransport where
  repository : String
  ref : String
  blobSha : ByteArray → String
  makeTree : GitTree → List GitHubTreeUpdate → Option GitTree
  treeSha : GitTree → String
  directorySha : GitTree → String → String
  commitSha : GitCommit → String
  sha256Hex : ByteArray → String
  repr : String → String
  swapRejected : TransportFailure

/-- What an update asks for at its path. -/
def GitHubTreeUpdate.change (u : GitHubTreeUpdate) : String × Option GitHubPathState :=
  (u.path, u.sha.map fun sha => ⟨sha, u.mode, u.objectType⟩)

namespace GitHubSourceMutationTransport

variable (S : GitHubSourceMutationTransport)

def commit? (sha : String) (s : GitStore) : Option GitCommit := s.commits.find? fun c => S.commitSha c = sha

def tree? (sha : String) (s : GitStore) : Option GitTree := s.trees.find? fun t => S.treeSha t = sha

/-- The files of a commit. -/
def treeAt (commitSha : String) (s : GitStore) : Option GitTree :=
  (S.commit? commitSha s).bind fun c => S.tree? c.treeSha s

def pathState (t : GitTree) (path : String) : Option GitHubPathState :=
  match t.file? path with
  | some file => some file
  | none => if t.IsDirectory path then some ⟨S.directorySha t path, "040000", "tree"⟩ else none

/-! ### The calls of the client -/

abbrev ClientResult (α : Type) := Except TransportFailure (α × GitStore)

def notFound : TransportFailure := ⟨.gitHubAPIError, "GitHub HTTP 404"⟩

def getRefHead (s : GitStore) : ClientResult String :=
  match s.ref with
  | none => .error notFound
  | some head => .ok (head, s)

def getCommit (sha : String) (s : GitStore) : ClientResult GitHubCommitState :=
  match S.commit? sha s with
  | none => .error notFound
  | some c => .ok (⟨sha, c.treeSha⟩, s)

def getPath (path commitSha : String) (s : GitStore) : ClientResult (Option GitHubPathState) :=
  match S.treeAt commitSha s with
  | none => .error notFound
  | some t => .ok (S.pathState t path, s)

def createBlob (content : ByteArray) (s : GitStore) : ClientResult String :=
  .ok (S.blobSha content, { s with blobs := s.blobs ++ [content] })

def createTree (baseTreeSha : String) (updates : List GitHubTreeUpdate) (s : GitStore) : ClientResult String :=
  match S.tree? baseTreeSha s with
  | none => .error notFound
  | some base =>
    match S.makeTree base updates with
    | none => .error ⟨.gitHubAPIError, "GitHub HTTP 422"⟩
    | some t => .ok (S.treeSha t, { s with trees := s.trees ++ [t] })

def createCommit (message treeSha parentSha stamp : String) (s : GitStore) : ClientResult String :=
  let c : GitCommit := ⟨message, treeSha, [parentSha], stamp⟩
  .ok (S.commitSha c, { s with commits := s.commits ++ [c] })

def compareAndSwapRef (expectedOldSha newSha : String) (s : GitStore) : ClientResult String :=
  if s.ref = some expectedOldSha then .ok (newSha, { s with ref := some newSha }) else .error S.swapRejected

inductive ClientCall
  | getRefHead | getCommit | getSource | createBlob | getDestination | createTree | createCommit
  | getRefHeadAgain | compareAndSwapRef | getRefHeadAfter | getPathAfter (path : String)

/-- How a call fails: before it did anything, or after. -/
inductive Fault
  | before (message : String)
  | after (message : String)

def client {α : Type} (fault : Option Fault) (t : GitStore → ClientResult α) :
    Prog Empty GitStore TransportFailure α :=
  match fault with
  | none => .txn t
  | some (.before message) => .raise ⟨.gitHubAPIError, message⟩
  | some (.after message) => .atom (fun s => Prog.committed (t s) s) fun _ => .raise ⟨.gitHubAPIError, message⟩

end GitHubSourceMutationTransport

/-! ## Requests -/

inductive Content
  | text (value : String)
  | bytes (value : ByteArray)

def Content.contentBytes : Content → ByteArray
  | text value => value.toUTF8
  | bytes value => value

structure SourceMutationRequest where
  schema : String
  mutationId : String
  repository : String
  ref : String
  subject : String
  actorRef : String
  operation : String
  path : String
  destinationPath : Option String
  expectedRefHead : String
  expectedBlobId : String
  expectedDestinationBlobId : Option String
  content : Option Content
  contentDigest : Option String

structure MutationCall where
  request : SourceMutationRequest
  stamp : String
  faults : GitHubSourceMutationTransport.ClientCall → Option GitHubSourceMutationTransport.Fault

structure SourceMutationTransportResult where
  repository : String
  ref : String
  operation : String
  path : String
  destinationPath : Option String
  previousRefHead : String
  newRefHead : String
  resultId : String

def requireText (value label : String) : Except TransportFailure String :=
  if value = "" then .error (transportError s!"{label} must be a non-empty exact string") else .ok value

def requireSome (value : Option String) (label : String) : Except TransportFailure String :=
  requireText (value.getD "") label

namespace GitHubSourceMutationTransport

variable (S : GitHubSourceMutationTransport)

def requireFileState (state : Option GitHubPathState) (expectedBlobId label : String) :
    Except TransportFailure (Option GitHubPathState) :=
  if expectedBlobId = "ABSENT" then
    match state with
    | some _ => .error (casMismatch s!"{label} expected ABSENT but path exists")
    | none => .ok none
  else
    match state with
    | none =>
      let expected := S.repr expectedBlobId
      .error (casMismatch s!"{label} expected blob {expected} but path is absent")
    | some state => do
      if state.objectType ≠ "blob" then throw (casMismatch s!"{label} is not a Git blob")
      if state.mode ∉ ["100644", "100755"] then
        let mode := S.repr state.mode
        throw (casMismatch s!"{label} has unsupported file mode {mode}")
      if state.blobSha ≠ expectedBlobId then throw (casMismatch s!"{label} blob changed before mutation")
      return some state

/-- `_validate_request` of a `WRITE_FILE`. -/
def validateWrite (request : SourceMutationRequest) : Except TransportFailure Unit :=
  match request.content with
  | none => .error (transportError "WRITE_FILE content must be exact str or bytes")
  | some content => do
    let expectedDigest ← requireSome request.contentDigest "content_digest"
    if S.sha256Hex content.contentBytes ≠ expectedDigest then
      throw (transportError "WRITE_FILE content digest mismatch")
    if request.destinationPath.isSome ∨ request.expectedDestinationBlobId.isSome then
      throw (transportError "WRITE_FILE must not carry destination state")

/-- `_validate_request` of a `DELETE_FILE`. -/
def validateDelete (request : SourceMutationRequest) : Except TransportFailure Unit := do
  if request.content.isSome then throw (transportError "DELETE_FILE must not carry content")
  if request.contentDigest.isSome then throw (transportError "DELETE_FILE must not carry content_digest")
  if request.expectedBlobId = "ABSENT" then
    throw (transportError "DELETE_FILE requires existing source blob")
  if request.destinationPath.isSome ∨ request.expectedDestinationBlobId.isSome then
    throw (transportError "DELETE_FILE must not carry destination state")

/-- `_validate_request` of a `MOVE_FILE`. -/
def validateMove (request : SourceMutationRequest) : Except TransportFailure Unit := do
  if request.content.isSome ∨ request.contentDigest.isSome then
    throw (transportError "MOVE_FILE must not carry content")
  let destination ← requireSome request.destinationPath "destination_path"
  if destination = request.path then
    throw (transportError "MOVE_FILE destination must differ from source")
  let _ ← requireSome request.expectedDestinationBlobId "expected_destination_blob_id"
  if request.expectedBlobId = "ABSENT" then
    throw (transportError "MOVE_FILE requires existing source blob")

def validateRequest (request : SourceMutationRequest) : Except TransportFailure Unit := do
  if request.schema ≠ "VERA_MONO_SOURCE_MUTATION_REQUEST_V1" then
    throw (transportError "unsupported source mutation request schema")
  if request.repository ≠ S.repository then
    throw (transportError "source mutation repository does not match transport")
  if request.ref ≠ S.ref then
    throw (transportError "source mutation ref does not match transport")
  let operation ← requireText request.operation "operation"
  if operation ∉ ["WRITE_FILE", "DELETE_FILE", "MOVE_FILE"] then
    throw (transportError s!"unsupported source mutation operation: {operation}")
  let _ ← requireText request.mutationId "mutation_id"
  let _ ← requireText request.subject "subject"
  let _ ← requireText request.actorRef "actor_ref"
  let _ ← requireText request.path "path"
  let _ ← requireText request.expectedRefHead "expected_ref_head"
  let _ ← requireText request.expectedBlobId "expected_blob_id"
  if operation = "WRITE_FILE" then S.validateWrite request
  else if operation = "DELETE_FILE" then validateDelete request
  else validateMove request

/-! ## `mutate` -/

abbrev Transported (α : Type) := Prog Empty GitStore TransportFailure α

/-- The updates of the tree, and what is to be at the paths afterwards. -/
structure Plan where
  updates : List GitHubTreeUpdate
  expectedAfter : List (String × Option String)

def assertionFailed : TransportFailure := ⟨.assertionError, ""⟩

/-- The plan of a `WRITE_FILE`. -/
def planWrite (call : MutationCall) (source : Option GitHubPathState) : Transported Plan := do
  let content := ((call.request.content.map Content.contentBytes).getD .empty)
  let blobSha ← client (call.faults .createBlob) (S.createBlob content)
  let _ ← Prog.ofExcept (requireText blobSha "created blob sha")
  let mode := match source with
    | none => "100644"
    | some source => source.mode
  return ⟨[⟨call.request.path, mode, "blob", some blobSha⟩], [(call.request.path, some blobSha)]⟩

/-- The plan of a `DELETE_FILE`. -/
def planDelete (call : MutationCall) (source : Option GitHubPathState) : Transported Plan :=
  match source with
  | none => .raise assertionFailed
  | some source => .ret ⟨[⟨call.request.path, source.mode, "blob", none⟩], [(call.request.path, none)]⟩

/-- The plan of a `MOVE_FILE`. -/
def planMove (call : MutationCall) (source : Option GitHubPathState) : Transported Plan :=
  match source with
  | none => .raise assertionFailed
  | some source => do
    let destinationPath := call.request.destinationPath.getD ""
    let destination ← client (call.faults .getDestination) (S.getPath destinationPath call.request.expectedRefHead)
    let _ ← Prog.ofExcept
      (S.requireFileState destination (call.request.expectedDestinationBlobId.getD "") "destination path")
    return ⟨[⟨call.request.path, source.mode, "blob", none⟩,
        ⟨destinationPath, source.mode, "blob", some source.blobSha⟩],
      [(call.request.path, none), (destinationPath, some source.blobSha)]⟩

def plan (call : MutationCall) (source : Option GitHubPathState) : Transported Plan :=
  if call.request.operation = "WRITE_FILE" then S.planWrite call source
  else if call.request.operation = "DELETE_FILE" then planDelete call source
  else S.planMove call source

/-- The reads after the swap. -/
def checkAfter (call : MutationCall) (newCommit : String) : List (String × Option String) → Transported Unit
  | [] => .ret ()
  | (path, expectedBlob) :: rest => do
    let state ← client (call.faults (.getPathAfter path)) (S.getPath path newCommit)
    match expectedBlob, state with
    | none, none => checkAfter call newCommit rest
    | none, some _ => .raise (transportError s!"GitHub post-write path should be absent: {path}")
    | some _, none => .raise (transportError s!"GitHub post-write blob readback mismatch: {path}")
    | some expectedBlob, some state =>
      if state.objectType ≠ "blob" ∨ state.blobSha ≠ expectedBlob then
        .raise (transportError s!"GitHub post-write blob readback mismatch: {path}")
      else checkAfter call newCommit rest

/-- The swap of the ref and what follows it. -/
def publish (call : MutationCall) (expectedAfter : List (String × Option String)) (newCommit : String) :
    Transported SourceMutationTransportResult := do
  let request := call.request
  let updatedHead ← client (call.faults .compareAndSwapRef)
    (S.compareAndSwapRef request.expectedRefHead newCommit)
  if updatedHead ≠ newCommit then throw (transportError "GitHub ref update returned unexpected head")
  let observedAfter ← client (call.faults .getRefHeadAfter) getRefHead
  if observedAfter ≠ newCommit then throw (transportError "GitHub post-write ref readback mismatch")
  S.checkAfter call newCommit expectedAfter
  return ⟨S.repository, S.ref, request.operation, request.path, request.destinationPath,
    request.expectedRefHead, newCommit, s!"github-commit:{newCommit}"⟩

def mutate (call : MutationCall) : Transported SourceMutationTransportResult := do
  let request := call.request
  Prog.ofExcept (S.validateRequest request)
  let observedHead ← client (call.faults .getRefHead) getRefHead
  if observedHead ≠ request.expectedRefHead then
    throw (casMismatch "GitHub ref head changed before source mutation")
  let commit ← client (call.faults .getCommit) (S.getCommit request.expectedRefHead)
  if commit.commitSha ≠ request.expectedRefHead then
    throw (transportError "GitHub commit readback identity mismatch")
  let source ← client (call.faults .getSource) (S.getPath request.path request.expectedRefHead)
  let source ← Prog.ofExcept (S.requireFileState source request.expectedBlobId "source path")
  let plan ← S.plan call source
  let treeSha ← client (call.faults .createTree) (S.createTree commit.treeSha plan.updates)
  let _ ← Prog.ofExcept (requireText treeSha "created tree sha")
  let mutationId := request.mutationId
  let operation := request.operation
  let path := request.path
  let newCommit ← client (call.faults .createCommit)
    (S.createCommit s!"Vera source mutation {mutationId}: {operation} {path}" treeSha request.expectedRefHead
      call.stamp)
  let _ ← Prog.ofExcept (requireText newCommit "created commit sha")
  let beforeUpdate ← client (call.faults .getRefHeadAgain) getRefHead
  if beforeUpdate ≠ request.expectedRefHead then
    throw (casMismatch "GitHub ref head changed while preparing source mutation")
  S.publish call plan.expectedAfter newCommit

/-! ## The others -/

/-- A call of `mutate`, or what other writers do: they add objects, or move the ref. -/
inductive RepositoryCall
  | mutate (call : MutationCall)
  | addObjects (blobs : List ByteArray) (trees : List GitTree) (commits : List GitCommit)
  | moveRef (head : Option String)

def program : RepositoryCall → Transported (Option SourceMutationTransportResult)
  | .mutate call => (S.mutate call).map some
  | .addObjects blobs trees commits =>
    .txn fun s => .ok (none, { s with
      blobs := s.blobs ++ blobs, trees := s.trees ++ trees, commits := s.commits ++ commits })
  | .moveRef head => .txn fun s => .ok (none, { s with ref := head })

end GitHubSourceMutationTransport

end VeraMono.SourceTransport
