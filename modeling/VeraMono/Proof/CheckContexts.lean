import VeraMono.Model.CheckContexts

/-!
# Checks are read completely

The loop keeps what it has read in one list, and returns it on the page that says that there is no
next one. A page without a rollup ends the loop too, with nothing: on the first page that is a commit
without checks, on a later one it drops the checks that were read.
-/

namespace VeraMono.CheckContexts

open SourceTransport

variable (P : Printing) (commitSha : String)

/-- The pages up to the one that says that there is no next one. A commit without a rollup has no
checks. -/
inductive Complete : List Response → List CheckPage → Prop
  | last {response : Response} {rest : List Response} {page : CheckPage}
      (hread : readResponse P commitSha response = .ok (some page)) (hlast : page.hasNext = false) :
      Complete (response :: rest) [page]
  | bare {response : Response} {rest : List Response} (hread : readResponse P commitSha response = .ok none) :
      Complete (response :: rest) []
  | next {response : Response} {rest : List Response} {page : CheckPage} {pages : List CheckPage}
      (hread : readResponse P commitSha response = .ok (some page)) (hnext : page.hasNext = true)
      (hrest : Complete rest pages) : Complete (response :: rest) (page :: pages)

/-- The pages with new cursors that lead to one without a rollup. -/
inductive LosesRollup : List Text → List Response → List CheckPage → Prop
  | bare {seen : List Text} {response : Response} {rest : List Response}
      (hread : readResponse P commitSha response = .ok none) : LosesRollup seen (response :: rest) []
  | next {seen : List Text} {response : Response} {rest : List Response} {page : CheckPage}
      {pages : List CheckPage} {cursor : Text}
      (hread : readResponse P commitSha response = .ok (some page)) (hnext : page.hasNext = true)
      (hcursor : exactText? page.endCursor = some cursor) (hnew : cursor ∉ seen)
      (hrest : LosesRollup (cursor :: seen) rest pages) : LosesRollup seen (response :: rest) (page :: pages)

/-- The contexts of some pages, in order. -/
def contextsOf (pages : List CheckPage) : List GitHubCheckContextState := pages.flatMap (·.contexts)

/-- A page without a rollup comes after one that has delivered a context. -/
def DropsContexts (repository : String) (responses : List Response) : Prop :=
  commitSha ≠ "" ∧ (repoParts repository).isOk = true ∧
    ∃ pages, LosesRollup P commitSha [] responses pages ∧ contextsOf pages ≠ []

/-- Either an error or the contexts of all pages, and no cursor is requested twice. -/
structure ReadCompletely (repository : String) (responses : List Response) : Prop where
  complete : ∀ contexts, (getCommitCheckContexts P repository commitSha responses).outcome = .ok contexts →
    ∃ pages, Complete P commitSha responses pages ∧ contexts = contextsOf pages ∧
      ∀ page ∈ pages, page.contexts ≠ [] → contexts ≠ []
  requested : (getCommitCheckContexts P repository commitSha responses).requested.Nodup

variable {P commitSha}

/-! ## The pages of a run -/

variable {responses : List Response} {pages : List CheckPage}

theorem Complete.unique {pages pages' : List CheckPage}
    (h : Complete P commitSha responses pages) (h' : Complete P commitSha responses pages') : pages = pages' := by
  induction h generalizing pages' with
  | last hread hlast =>
    cases h' with
    | last hread' => simp_all
    | bare hread' => simp_all
    | next hread' hnext => simp_all
  | bare hread =>
    cases h' with
    | last hread' => simp_all
    | bare hread' => rfl
    | next hread' => simp_all
  | next hread hnext hrest ih =>
    cases h' with
    | last hread' hlast => simp_all
    | bare hread' => simp_all
    | next hread' hnext' hrest' =>
      rw [hread] at hread'
      rw [ih hrest', Option.some.inj (Except.ok.inj hread')]

theorem LosesRollup.complete {seen : List Text}
    (h : LosesRollup P commitSha seen responses pages) : Complete P commitSha responses pages := by
  induction h with
  | bare hread => exact .bare hread
  | next hread hnext hcursor hnew hrest ih => exact .next hread hnext ih

theorem mem_contextsOf {page : CheckPage} (h : page ∈ pages) (hc : page.contexts ≠ []) :
    contextsOf pages ≠ [] := by
  obtain ⟨context, hcontext⟩ := List.exists_mem_of_ne_nil _ hc
  exact List.ne_nil_of_mem (List.mem_flatMap.2 ⟨page, h, hcontext⟩)

/-! ## The loop -/

/-- A run that returns has read every page, or has come to one without a rollup. -/
theorem readPages_ok (responses : List Response) (after : Option Text) (seen : List Text)
    (contexts result : List GitHubCheckContextState)
    (h : (readPages P commitSha responses after seen contexts).outcome = .ok result) :
    ∃ pages, Complete P commitSha responses pages ∧
      (result = contexts ++ contextsOf pages ∨ (result = [] ∧ LosesRollup P commitSha seen responses pages)) := by
  induction responses generalizing after seen contexts with
  | nil => cases h
  | cons response rest ih =>
    rw [readPages] at h
    split at h
    next => cases h
    next hread => exact ⟨[], .bare hread, .inr ⟨(Except.ok.inj h).symm, .bare hread⟩⟩
    next page hread =>
      dsimp only at h
      split at h
      next hnext =>
        split at h
        next => cases h
        next cursor hcursor =>
          split at h
          next => cases h
          next hnew =>
            obtain ⟨pages, hcomplete, hresult⟩ := ih _ _ _ h
            refine ⟨page :: pages, .next hread hnext hcomplete, ?_⟩
            obtain hresult | ⟨hresult, hloses⟩ := hresult
            · exact .inl (by rw [hresult, contextsOf, contextsOf, List.flatMap_cons, List.append_assoc])
            · exact .inr ⟨hresult, .next hread hnext hcursor hnew hloses⟩
      next hlast =>
        exact ⟨[page], .last hread (by simpa using hlast),
          .inl (by rw [← Except.ok.inj h, contextsOf, List.flatMap_singleton])⟩

theorem readPages_loses {seen : List Text}
    (h : LosesRollup P commitSha seen responses pages) (after : Option Text)
    (contexts : List GitHubCheckContextState) :
    (readPages P commitSha responses after seen contexts).outcome = .ok [] := by
  induction h generalizing after contexts with
  | bare hread => simp only [readPages, hread]
  | next hread hnext hcursor hnew hrest ih =>
    simp only [readPages, hread, hnext, hcursor, hnew, if_true, if_false]
    exact ih _ _

/-- The first request is `after`, and the later ones are of cursors that were not seen. -/
theorem readPages_requested (P : Printing) (commitSha : String) (responses : List Response) (after : Option Text) (seen : List Text)
    (contexts : List GitHubCheckContextState) : ∃ later,
    (readPages P commitSha responses after seen contexts).requested = after :: later ∧ later.Nodup ∧
      ∀ request ∈ later, ∃ cursor, request = some cursor ∧ cursor ∉ seen := by
  induction responses generalizing after seen contexts with
  | nil => exact ⟨[], rfl, .nil, by simp⟩
  | cons response rest ih =>
    rw [readPages]
    split
    next => exact ⟨[], rfl, .nil, by simp⟩
    next => exact ⟨[], rfl, .nil, by simp⟩
    next page hread =>
      dsimp only
      split
      next =>
        split
        next => exact ⟨[], rfl, .nil, by simp⟩
        next cursor hcursor =>
          split
          next => exact ⟨[], rfl, .nil, by simp⟩
          next hnew =>
            obtain ⟨later, hrequested, hnodup, hlater⟩ := ih (some cursor) (cursor :: seen) (contexts ++ page.contexts)
            refine ⟨some cursor :: later, by rw [hrequested], List.nodup_cons.2 ⟨fun hmem => ?_, hnodup⟩,
              fun request hmem => ?_⟩
            · obtain ⟨other, hother, hunseen⟩ := hlater _ hmem
              exact hunseen (Option.some.inj hother ▸ List.mem_cons_self)
            · obtain rfl | hmem := List.mem_cons.1 hmem
              · exact ⟨cursor, rfl, hnew⟩
              · obtain ⟨other, hother, hunseen⟩ := hlater _ hmem
                exact ⟨other, hother, fun hseen => hunseen (List.mem_cons_of_mem _ hseen)⟩
      next => exact ⟨[], rfl, .nil, by simp⟩

/-! ## The call -/

theorem getCommitCheckContexts_eq {repository : String} (hsha : commitSha ≠ "")
    (hrepo : (repoParts repository).isOk = true) (responses : List Response) :
    getCommitCheckContexts P repository commitSha responses = readPages P commitSha responses none [] [] := by
  rw [getCommitCheckContexts, if_neg hsha]
  cases hparts : repoParts repository with
  | error e => simp [hparts, Except.isOk, Except.toBool] at hrepo
  | ok parts => rfl

theorem getCommitCheckContexts_error {repository : String}
    (h : ¬ (commitSha ≠ "" ∧ (repoParts repository).isOk = true)) (responses : List Response) :
    ∃ e, getCommitCheckContexts P repository commitSha responses = ⟨[], .error e⟩ := by
  rw [getCommitCheckContexts]
  split
  · exact ⟨_, rfl⟩
  next hsha =>
    cases hparts : repoParts repository with
    | error e => exact ⟨e, rfl⟩
    | ok parts => exact absurd ⟨hsha, by simp [hparts, Except.isOk, Except.toBool]⟩ h

/-- The checks are read completely or not at all, unless a page without a rollup comes after one that has
delivered a context. -/
theorem readCompletely_iff (repository : String) (responses : List Response) :
    ReadCompletely P commitSha repository responses ↔ ¬ DropsContexts P commitSha repository responses := by
  constructor
  · rintro h ⟨hsha, hrepo, pages, hloses, hcontexts⟩
    have hempty := readPages_loses hloses none []
    rw [← getCommitCheckContexts_eq (P := P) hsha hrepo] at hempty
    obtain ⟨pages', hcomplete, heq, -⟩ := h.complete [] hempty
    rw [hcomplete.unique hloses.complete] at heq
    exact hcontexts heq.symm
  · intro hdrops
    by_cases hargs : commitSha ≠ "" ∧ (repoParts repository).isOk = true
    · obtain ⟨hsha, hrepo⟩ := hargs
      refine ⟨fun contexts hok => ?_, ?_⟩
      · rw [getCommitCheckContexts_eq hsha hrepo] at hok
        obtain ⟨pages, hcomplete, hresult⟩ := readPages_ok _ _ _ _ _ hok
        have heq : contexts = contextsOf pages := by
          obtain hresult | ⟨rfl, hloses⟩ := hresult
          · exact hresult
          · by_contra hne
            exact hdrops ⟨hsha, hrepo, pages, hloses, fun h => hne h.symm⟩
        exact ⟨pages, hcomplete, heq, fun page hpage hc => heq ▸ mem_contextsOf hpage hc⟩
      · rw [getCommitCheckContexts_eq hsha hrepo]
        obtain ⟨later, hrequested, hnodup, hlater⟩ := readPages_requested P commitSha responses none [] []
        rw [hrequested]
        refine List.nodup_cons.2 ⟨fun hmem => ?_, hnodup⟩
        obtain ⟨cursor, hcursor, -⟩ := hlater none hmem
        cases hcursor
    · obtain ⟨e, herror⟩ := getCommitCheckContexts_error (P := P) hargs responses
      refine ⟨fun contexts hok => ?_, ?_⟩
      · rw [herror] at hok
        cases hok
      · rw [herror]
        exact List.nodup_nil

/-! ## A dropped check -/

def samplePrinting : Printing := ⟨fun _ => .valid "", fun _ => .valid "", fun _ => ""⟩

/-- A response for a commit with the given rollup. -/
def sampleResponse (rollup : PyValue) : Response :=
  .ok ⟨200, .dict [(pyStr "data", .dict [(pyStr "repository", .dict [(pyStr "object",
    .dict [(pyStr "oid", pyStr "c"), (pyStr "statusCheckRollup", rollup)])])])]⟩

def failedCheck : PyValue :=
  .dict [(pyStr "contexts", .dict [
    (pyStr "nodes", .list [.dict [(pyStr "__typename", pyStr "StatusContext"), (pyStr "context", pyStr "ci"),
      (pyStr "state", pyStr "FAILURE")]]),
    (pyStr "pageInfo", .dict [(pyStr "hasNextPage", .bool true), (pyStr "endCursor", pyStr "1")])])]

/-- The failed check of the first page is lost when the second has no rollup. -/
theorem failed_check_dropped :
    (getCommitCheckContexts samplePrinting "o/n" "c" [sampleResponse failedCheck, sampleResponse .none]).outcome =
        .ok [] ∧
      ¬ ∀ repository commitSha responses, ReadCompletely samplePrinting commitSha repository responses := by
  have hread : readResponse samplePrinting "c" (sampleResponse failedCheck) =
      .ok (some ⟨[⟨.valid "ci", .statusContext, .valid "FAILURE", none, none, none⟩], true, pyStr "1"⟩) := rfl
  have hbare : readResponse samplePrinting "c" (sampleResponse .none) = .ok none := rfl
  refine ⟨rfl, fun h => ?_⟩
  obtain ⟨pages, hcomplete, heq, -⟩ := (h "o/n" "c" [sampleResponse failedCheck, sampleResponse .none]).complete [] rfl
  rw [hcomplete.unique (.next hread rfl (.bare hbare))] at heq
  cases heq

end VeraMono.CheckContexts
