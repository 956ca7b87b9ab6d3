import VeraMono.Model.SourceTransport
import VeraMono.Model.StoredMemory

/-!
# Commit check contexts

`get_commit_check_contexts` of `github_api_client.py`: the checks of a commit, read page by page from
GitHub's GraphQL interface. The responses come in order, each of them whatever the transport gives,
and a request past the last of them raises. The cursors that were requested are kept with the outcome.
-/

namespace VeraMono.CheckContexts

open SourceTransport

inductive CheckKind
  | checkRun | statusContext
  deriving DecidableEq, Repr

structure GitHubCheckContextState where
  name : Text
  kind : CheckKind
  status : Text
  conclusion : Option Text
  externalId : Option Text
  detailsRef : Option Text
  deriving DecidableEq

structure GitHubHTTPResult where
  status : Nat
  payload : PyValue

structure Printing where
  str : PyValue → Text
  /-- `f"check-run:{value}"`. -/
  checkRunId : PyValue → Text
  repr : PyValue → String

variable (P : Printing)

def apiError (message : String) : TransportFailure := ⟨.gitHubAPIError, message⟩

/-! ## Values -/

/-- `bool(value)`. -/
def truth : PyValue → Bool
  | .none => false
  | .bool b => b
  | .int i => i ≠ 0
  | .float value => value ≠ some 0
  | .str t => !t.codePoints.isEmpty
  | .bytes data => !data.isEmpty
  | .list items => !items.isEmpty
  | .tuple items => !items.isEmpty
  | .set items => !items.isEmpty
  | .dict entries => !entries.isEmpty
  | _ => true

def exactText? : PyValue → Option Text
  | .str t => if t.codePoints = [] then none else some t
  | _ => none

def mapping (message : String) : PyValue → Except TransportFailure (List (PyValue × PyValue))
  | .dict entries => .ok entries
  | _ => .error (apiError message)

def getField (key : String) (entries : List (PyValue × PyValue)) : PyValue := (dictGet? key entries).getD .none

def isNone : PyValue → Bool
  | .none => true
  | _ => false

/-! ## One page -/

/-- `_graphql`, for the result of the request. -/
def graphql (result : GitHubHTTPResult) : Except TransportFailure (List (PyValue × PyValue)) := do
  unless 200 ≤ result.status ∧ result.status < 300 do
    throw (apiError s!"unexpected GitHub GraphQL HTTP status {result.status}")
  let payload ← mapping "GitHub GraphQL response must be an object" result.payload
  let errors := getField "errors" payload
  if truth errors then throw (apiError s!"GitHub GraphQL rejected request: {P.repr errors}")
  mapping "GitHub GraphQL response is missing data" (getField "data" payload)

/-- A value unless it is `None`. -/
def optionalField (render : PyValue → Text) (value : PyValue) : Option Text :=
  if isNone value then none else some (render value)

def readNode (value : PyValue) : Except TransportFailure GitHubCheckContextState := do
  let node ← mapping "GitHub status check context must be an object" value
  let kind := getField "__typename" node
  if kind.isText "CheckRun" then
    match exactText? (getField "name" node), exactText? (getField "status" node) with
    | some name, some status =>
      return {
        name, kind := .checkRun, status
        conclusion := optionalField P.str (getField "conclusion" node)
        externalId := optionalField P.checkRunId (getField "databaseId" node)
        detailsRef := exactText? (getField "detailsUrl" node) }
    | _, _ => throw (apiError "GitHub CheckRun context is incomplete")
  else if kind.isText "StatusContext" then
    match exactText? (getField "context" node), exactText? (getField "state" node) with
    | some name, some status =>
      return {
        name, kind := .statusContext, status, conclusion := none, externalId := none
        detailsRef := exactText? (getField "targetUrl" node) }
    | _, _ => throw (apiError "GitHub StatusContext is incomplete")
  else throw (apiError "GitHub returned unsupported status context type")

structure CheckPage where
  contexts : List GitHubCheckContextState
  hasNext : Bool
  endCursor : PyValue

/-- A page, or `none` for a commit without a rollup. -/
def readPage (commitSha : String) (data : List (PyValue × PyValue)) :
    Except TransportFailure (Option CheckPage) := do
  let repository ← mapping "GitHub check lookup returned no repository" (getField "repository" data)
  let commit ← mapping "GitHub check lookup returned no exact commit object" (getField "object" repository)
  unless (getField "oid" commit).isText commitSha do throw (apiError "GitHub check lookup commit OID mismatch")
  match getField "statusCheckRollup" commit with
  | .none => return none
  | value =>
    let rollup ← mapping "GitHub statusCheckRollup must be an object or null" value
    let connection ← mapping "GitHub status check contexts are missing" (getField "contexts" rollup)
    match getField "nodes" connection, getField "pageInfo" connection with
    | .list nodes, .dict pageInfo =>
      let contexts ← nodes.mapM (readNode P)
      match getField "hasNextPage" pageInfo with
      | .bool hasNext => return some ⟨contexts, hasNext, getField "endCursor" pageInfo⟩
      | _ => throw (apiError "GitHub status check pageInfo lacks hasNextPage")
    | _, _ => throw (apiError "GitHub status check pagination response is incomplete")

/-! ## All pages -/

/-- What the transport answers to a request. -/
abbrev Response := Except TransportFailure GitHubHTTPResult

def readResponse (commitSha : String) (response : Response) : Except TransportFailure (Option CheckPage) := do
  let result ← response
  let data ← graphql P result
  readPage P commitSha data

/-- The cursors that were requested, and the outcome. -/
structure Reading where
  requested : List (Option Text)
  outcome : Except TransportFailure (List GitHubCheckContextState)

/-- The loop: the cursor to request next, the cursors that were seen, and the contexts so far. -/
def readPages (commitSha : String) :
    List Response → Option Text → List Text → List GitHubCheckContextState → Reading
  | [], after, _, _ => ⟨[after], .error (apiError "GitHub transport has no response")⟩
  | response :: rest, after, seen, contexts =>
    match readResponse P commitSha response with
    | .error e => ⟨[after], .error e⟩
    | .ok none => ⟨[after], .ok []⟩
    | .ok (some page) =>
      let contexts := contexts ++ page.contexts
      if page.hasNext then
        match exactText? page.endCursor with
        | none => ⟨[after], .error (apiError "GitHub status check pagination lacks endCursor")⟩
        | some cursor =>
          if cursor ∈ seen then ⟨[after], .error (apiError "GitHub status check pagination cursor repeated")⟩
          else
            let reading := readPages commitSha rest (some cursor) (cursor :: seen) contexts
            ⟨after :: reading.requested, reading.outcome⟩
      else ⟨[after], .ok contexts⟩

def repoParts (repository : String) : Except TransportFailure (String × String) :=
  match repository.toList.splitOn '/' with
  | [owner, name] =>
    if owner = [] ∨ name = [] then .error (apiError "repository must use exact owner/name form")
    else .ok (.ofList owner, .ofList name)
  | _ => .error (apiError "repository must use exact owner/name form")

def getCommitCheckContexts (repository commitSha : String) (responses : List Response) : Reading :=
  if commitSha = "" then ⟨[], .error (apiError "commit_sha must be a non-empty exact string")⟩
  else
    match repoParts repository with
    | .error e => ⟨[], .error e⟩
    | .ok _ => readPages P commitSha responses none [] []

end VeraMono.CheckContexts
