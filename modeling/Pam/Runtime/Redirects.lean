import Pam.Runtime.HttpClient

namespace Pam.Runtime

open Pam.Foundation Pam.Protocol List

/-! Which headers of the caller reach which target of a chain of redirects. -/

def Given (headers : Table PhpString PhpValue) (name : PhpString) : Prop :=
  ∃ entry ∈ headers.entries, strtolower entry.1 = name ∧ headerValues entry.2 ≠ []

def SentRequest.Carries (sent : SentRequest) (name : PhpString) : Prop :=
  ∃ value, (name, value) ∈ sent.lines

def Holds (headers : Table PhpString (List PhpString)) (name : PhpString) : Prop :=
  (headers.lookup name).getD [] ≠ []

theorem mem_headerLines_iff :
    (∃ value, (name, value) ∈ headerLines headers) ↔ Holds headers name := by
  simp only [headerLines, mem_flatMap, mem_map, Prod.mk.injEq, Holds]
  constructor
  · rintro ⟨value, ⟨key, values⟩, member, found, held, rfl, rfl⟩
    have lookup : headers.lookup key = some values := AList.mem_lookup_iff.mpr member
    rw [lookup]
    exact ne_nil_of_mem held
  · intro nonempty
    cases lookup : headers.lookup name with
    | none => exact absurd (by rw [lookup]; rfl) nonempty
    | some values =>
      rw [lookup] at nonempty
      obtain ⟨value, held⟩ := exists_mem_of_ne_nil _ nonempty
      exact ⟨value, ⟨name, values⟩, AList.mem_lookup_iff.mp lookup, value, held, rfl, rfl⟩

theorem holds_assign (nonempty : values ≠ []) :
    Holds (result.assign key values) name ↔ key = name ∨ Holds result name := by
  rw [Holds, Table.lookup_assign]
  split
  next same =>
    rw [same]
    simpa using nonempty
  next away => exact (or_iff_right fun same => away same.symm).symm

theorem holds_setDefault (away : key ≠ name) :
    Holds (setDefault key value result) name ↔ Holds result name := by
  rw [setDefault]
  split
  · rfl
  · rw [holds_assign (cons_ne_nil _ _)]
    exact or_iff_right away

theorem holds_appendHeader (done : appendHeader key result value = .ok changed) :
    Holds changed name ↔ key = name ∨ Holds result name := by
  cases value with
  | string text =>
    rw [appendHeader] at done
    split at done
    · cases done
    cases done
    exact holds_assign (append_ne_nil_of_right_ne_nil _ (cons_ne_nil _ _))
  | null | bool value | integer value | float bits | array entries => cases done

theorem holds_normalizeHeader (done : normalizeHeader result entry = .ok changed) :
    Holds changed name ↔ (strtolower entry.1 = name ∧ headerValues entry.2 ≠ []) ∨
        Holds result name := by
  dsimp only [normalizeHeader] at done
  split at done
  · cases done
  split at done
  · cases done
  rw [foldlM_marks done holds_appendHeader]
  apply or_congr_left
  constructor
  · rintro ⟨value, member, same⟩
    exact ⟨same, ne_nil_of_mem member⟩
  rintro ⟨same, nonempty⟩
  obtain ⟨value, member⟩ := exists_mem_of_ne_nil _ nonempty
  exact ⟨value, member, same⟩

theorem holds_requestHeaders {client : Client} (foreign : name ∉ ownNames) :
    Holds (client.requestHeaders endpoint body result) name ↔ Holds result name := by
  simp only [ownNames, mem_cons, not_mem_nil, or_false, not_or] at foreign
  obtain ⟨host, connection, encoding, agent, length⟩ := foreign
  have headers : Holds (setDefault userAgentName client.userAgent
      (setDefault acceptEncodingName (asciiBytes "identity")
        ((setDefault hostName (hostHeader endpoint) result).assign
          connectionName [asciiBytes "close"]))) name ↔ Holds result name := by
    rw [holds_setDefault (Ne.symm agent), holds_setDefault (Ne.symm encoding),
      holds_assign (cons_ne_nil _ _), or_iff_right (Ne.symm connection),
      holds_setDefault (Ne.symm host)]
  dsimp only [Client.requestHeaders]
  split
  · exact headers
  · rw [holds_assign (cons_ne_nil _ _), or_iff_right (Ne.symm length)]
    exact headers

theorem carries_write_iff {client : Client} {call : ClientCall}
    {endpoint : Endpoint} {sent : SentRequest} {name : PhpString} (foreign : name ∉ ownNames)
    (written : client.write call endpoint = .ok sent) :
    sent.Carries name ↔ Given call.headers name := by
  obtain ⟨normalized, normal, rest⟩ := bind_eq_ok.mp written
  cases rest
  rw [SentRequest.Carries, mem_headerLines_iff, holds_requestHeaders foreign,
    foldlM_marks normal holds_normalizeHeader]
  exact or_iff_left fun none => none rfl

theorem url_of_write {client : Client} {call : ClientCall}
    {endpoint : Endpoint} {sent : SentRequest} (written : client.write call endpoint = .ok sent) :
    sent.url = call.url ∧ sent.endpoint = endpoint := by
  obtain ⟨normalized, normal, rest⟩ := bind_eq_ok.mp written
  cases rest
  exact ⟨rfl, rfl⟩

theorem given_retain_iff {name : PhpString} :
    Given (headers.retain fun key _ => strtolower key != authorizationName) name ↔
      Given headers name ∧ name ≠ authorizationName := by
  simp only [Given, Table.retain, mem_filter, bne_iff_ne]
  constructor
  · rintro ⟨entry, ⟨member, kept⟩, rfl, nonempty⟩
    exact ⟨⟨entry, member, rfl, nonempty⟩, kept⟩
  · rintro ⟨⟨entry, member, rfl, nonempty⟩, kept⟩
    exact ⟨entry, ⟨member, kept⟩, rfl, nonempty⟩

variable {client : Client} {urls : UrlFunctions}

theorem given_nextHeaders_iff {headers : Table PhpString PhpValue}
    (kept : urls.nextHeaders call nextUrl = .ok headers) :
    Given headers name ↔ Given call.headers name ∧ (name = authorizationName →
        urls.host nextUrl = urls.host call.url) := by
  rw [UrlFunctions.nextHeaders] at kept
  split at kept
  next changed =>
    split at kept
    · cases kept
    cases kept
    have away := Ne.symm (bne_iff_ne.mp changed)
    rw [given_retain_iff]
    apply and_congr_right
    intro _
    constructor
    · intro other same
      exact absurd same other
    · intro stays same
      exact away (stays same)
  next unchanged =>
  cases kept
  have same : urls.host call.url = urls.host nextUrl := by simpa using unchanged
  exact (and_iff_left fun _ => same.symm).symm

/-- Where the response redirects a request to `url`. -/
def Client.target (client : Client) (urls : UrlFunctions) (url : PhpString)
    (redirects : Nat) (response : ClientResponse) : Option PhpString := do
  let location ← response.header locationName
  if redirectStatuses.contains response.status && redirects < client.maxRedirects then
    (urls.resolveUrl url location).toOption
  else none

/-- The URLs that a chain of redirects leads to, from `url` on. -/
def Client.targets (client : Client) (urls : UrlFunctions) (url : PhpString) (redirects : Nat) :
    List Reply → List PhpString
  | .answered response :: replies =>
    url :: match client.target urls url redirects response with
      | some next => client.targets urls next (redirects + 1) replies
      | none => []
  | _ => [url]

theorem redirect_next {next : ClientCall}
    (redirected : client.redirect urls call response = .ok (some next)) :
    call.redirects < client.maxRedirects ∧ next.redirects = call.redirects + 1 ∧
      client.target urls call.url call.redirects response = some next.url ∧
      ∀ name, Given next.headers name ↔ Given call.headers name ∧
        (name = authorizationName → urls.host next.url = urls.host call.url) := by
  rw [Client.redirect] at redirected
  split at redirected
  · cases redirected
  next found =>
  split at redirected
  · cases redirected
  next following =>
  obtain ⟨nextUrl, resolved, rest⟩ := bind_eq_ok.mp redirected
  obtain ⟨headers, kept, rest⟩ := bind_eq_ok.mp rest
  cases (Except.ok.inj rest)
  have follows : (redirectStatuses.contains response.status &&
      decide (call.redirects < client.maxRedirects)) = true := by simpa using following
  have target : client.target urls call.url call.redirects response = some nextUrl := by
    rw [Client.target, found, Option.bind_eq_bind, Option.bind_some, if_pos follows, resolved]
    rfl
  rw [Bool.and_eq_true, decide_eq_true_eq] at follows
  exact ⟨follows.2, rfl, target, fun name => given_nextHeaders_iff kept⟩

theorem run_cases (client : Client) (urls : UrlFunctions) (call : ClientCall)
    (replies : List Reply) : (client.run urls call replies).1 = [] ∨
    ∃ endpoint sent, urls.endpoint call.url = .ok endpoint ∧ client.write call endpoint = .ok sent ∧
      ((client.run urls call replies).1 = [sent] ∨ ∃ response next rest,
          replies = .answered response :: rest ∧
          client.redirect urls call response = .ok (some next) ∧ (client.run urls call replies).1 =
            sent :: (client.run urls next rest).1) := by
  cases replies with
  | nil => exact .inl rfl
  | cons reply replies =>
    rw [Client.run]
    split
    · exact .inl rfl
    next endpoint reached =>
    split
    · exact .inl rfl
    · split
      · exact .inl rfl
      next sent written => exact .inr ⟨endpoint, sent, reached, written, .inl rfl⟩
    next response =>
    split
    · exact .inl rfl
    next sent written =>
    refine .inr ⟨endpoint, sent, reached, written, ?_⟩
    split
    · exact .inl rfl
    · exact .inl rfl
    next redirected => exact .inr ⟨response, _, replies, rfl, redirected, rfl⟩

theorem length_run_le : (client.run urls call replies).1.length ≤
      client.maxRedirects - call.redirects + 1 := by
  induction replies generalizing call with
  | nil => exact Nat.zero_le _
  | cons reply replies induction =>
    rcases run_cases client urls call (reply :: replies) with
      none | ⟨_, sent, _, _, one | ⟨_, next, rest, same, redirected, more⟩⟩
    · rw [none]
      exact Nat.zero_le _
    · rw [one]
      exact Nat.le_add_left 1 _
    obtain rfl := (List.cons.inj same).2
    obtain ⟨below, count, -⟩ := redirect_next redirected
    have later : (client.run urls next replies).1.length ≤
        client.maxRedirects - next.redirects + 1 := induction
    rw [more, length_cons]
    omega

theorem targets_cons (client : Client) (urls : UrlFunctions) (url : PhpString) (redirects : Nat)
    (replies : List Reply) : ∃ later, client.targets urls url redirects replies = url :: later := by
  unfold Client.targets
  split <;> exact ⟨_, rfl⟩

theorem urls_run : (client.run urls call replies).1.map SentRequest.url =
      (client.targets urls call.url call.redirects replies).take
        (client.run urls call replies).1.length := by
  induction replies generalizing call with
  | nil => rfl
  | cons reply replies induction =>
    rcases run_cases client urls call (reply :: replies) with
      none | ⟨_, sent, _, written, one | ⟨response, next, rest, same, redirected, more⟩⟩
    · rw [none]
      rfl
    · obtain ⟨later, begins⟩ := targets_cons client urls call.url call.redirects (reply :: replies)
      rw [one, begins, map_singleton, (url_of_write written).1]
      rfl
    obtain ⟨rfl, rfl⟩ := List.cons.inj same
    obtain ⟨-, count, target, -⟩ := redirect_next redirected
    rw [more, map_cons, induction, length_cons, (url_of_write written).1, count, Client.targets,
      target]
    rfl

theorem url_of_prefix (starts : first :: later <+: (client.run urls call replies).1) :
    first.url = call.url := by
  have listed := starts.map SentRequest.url
  rw [urls_run] at listed
  obtain ⟨rest, begins⟩ := targets_cons client urls call.url call.redirects replies
  have starts := listed.trans <| take_prefix _ _
  rw [begins] at starts
  exact (cons_prefix_cons.mp starts).1

theorem carries_first_iff {name : PhpString} (foreign : name ∉ ownNames)
    (written : client.write call endpoint = .ok sent) :
    sent.Carries name ↔ Given call.headers name ∧ (name = authorizationName → ∀ passed ∈ [sent],
        urls.host passed.url = urls.host call.url) := by
  rw [carries_write_iff foreign written]
  refine (and_iff_left ?_).symm
  intro _ passed member
  rw [mem_singleton.mp member, (url_of_write written).1]

theorem carries_run_iff {name : PhpString} (foreign : name ∉ ownNames)
    (reached : before ++ [sent] <+: (client.run urls call replies).1) :
    sent.Carries name ↔ Given call.headers name ∧
      (name = authorizationName → ∀ passed ∈ before ++ [sent],
        urls.host passed.url = urls.host call.url) := by
  have longer (front : List SentRequest) : ¬ front ++ [sent] <+: [] := by simp
  induction replies generalizing call before with
  | nil => exact absurd reached (longer before)
  | cons reply replies induction =>
    have runs := run_cases client urls call (reply :: replies)
    rcases runs with none | ⟨_, first, _, written, one | ⟨_, next, rest, same, redirected, more⟩⟩
    · rw [none] at reached
      exact absurd reached (longer before)
    · rw [one] at reached
      cases before with
      | nil =>
        obtain rfl := (cons_prefix_cons.mp reached).1
        exact carries_first_iff foreign written
      | cons head before => exact absurd (cons_prefix_cons.mp reached).2 (longer before)
    · obtain rfl := (List.cons.inj same).2
      rw [more] at reached
      cases before with
      | nil =>
        obtain rfl := (cons_prefix_cons.mp reached).1
        exact carries_first_iff foreign written
      | cons head before =>
        obtain ⟨rfl, later⟩ := cons_prefix_cons.mp reached
        obtain ⟨-, -, -, kept⟩ := redirect_next redirected
        have here := (url_of_write written).1
        refine (induction later).trans ?_
        rw [kept, and_assoc]
        apply and_congr_right
        intro _
        -- The first request of the rest has the URL of the next round.
        have next : ∃ passed ∈ before ++ [sent], passed.url = next.url := by
          cases before with
          | nil => exact ⟨sent, mem_cons_self, url_of_prefix later⟩
          | cons first before => exact ⟨first, mem_cons_self, url_of_prefix later⟩
        obtain ⟨second, among, there⟩ := next
        constructor
        · rintro ⟨stays, all⟩ isName passed member
          rcases mem_cons.mp member with rfl | after
          · rw [here]
          · rw [all isName passed after, stays isName]
        · intro all
          have stays : name = authorizationName → urls.host next.url = urls.host call.url := by
            intro isName
            rw [← there]
            exact all isName second (mem_cons_of_mem _ among)
          refine ⟨stays, ?_⟩
          intro isName passed member
          rw [all isName passed (mem_cons_of_mem _ member), stays isName]

def cookieName : PhpString := asciiBytes "cookie"

def proxyAuthorizationName : PhpString := asciiBytes "proxy-authorization"

def credentialNames : List PhpString := [authorizationName, cookieName, proxyAuthorizationName]

def UrlFunctions.origin (urls : UrlFunctions) (url : PhpString) : Option Origin :=
  (urls.endpoint url).toOption.map Endpoint.origin

def KeepsCredentials (urls : UrlFunctions) (url : PhpString) (requests : List SentRequest) : Prop :=
  ∀ sent ∈ requests, ∀ name ∈ credentialNames, sent.Carries name →
    urls.origin url = some sent.endpoint.origin

/-- If a target of the redirects has another origin, the caller gives neither a
cookie nor a proxy authorization, and an authorization only where the host has
changed on the way there. -/
def Discreet (urls : UrlFunctions) (url : PhpString)
    (headers : Table PhpString PhpValue) (targets : List PhpString) : Prop :=
  ∀ index target, targets[index]? = some target → urls.origin url ≠ urls.origin target →
    ¬ Given headers cookieName ∧ ¬ Given headers proxyAuthorizationName ∧
      (Given headers authorizationName →
        ∃ passed ∈ targets.take (index + 1), urls.host passed ≠ urls.host url)

theorem credentialNames_foreign : ∀ name ∈ credentialNames, name ∉ ownNames := by decide

variable {client : Client}

theorem origin_of_mem_run {replies : List Reply}
    (member : sent ∈ (client.run urls call replies).1) :
    urls.origin sent.url = some sent.endpoint.origin := by
  induction replies generalizing call with
  | nil => cases member
  | cons reply replies induction =>
    have first : ∀ {endpoint : Endpoint} {sent : SentRequest},
        urls.endpoint call.url = .ok endpoint → client.write call endpoint = .ok sent →
        urls.origin sent.url = some sent.endpoint.origin := by
      intro endpoint sent reached written
      obtain ⟨url, there⟩ := url_of_write written
      rw [UrlFunctions.origin, url, there, reached]
      rfl
    rcases run_cases client urls call (reply :: replies) with
      none | ⟨_, sent, reached, written, one | ⟨_, next, rest, same, redirected, more⟩⟩
    · rw [none] at member
      cases member
    · rw [one] at member
      rw [mem_singleton.mp member]
      exact first reached written
    obtain rfl := (List.cons.inj same).2
    rw [more] at member
    rcases mem_cons.mp member with rfl | later
    · exact first reached written
    · exact induction later

theorem reached_of_getElem? {requests : List SentRequest} (found : requests[index]? = some sent) :
    requests.take index ++ [sent] = requests.take (index + 1) := by
  rw [take_add_one, found]
  rfl

theorem keepsCredentials_run_iff : KeepsCredentials urls call.url (client.run urls call replies).1 ↔
      Discreet urls call.url call.headers
        ((client.run urls call replies).1.map SentRequest.url) := by
  -- The requests up to one of them, in the form in which they are reached.
  have chain : ∀ {index sent}, (client.run urls call replies).1[index]? = some sent →
      (client.run urls call replies).1.take index ++ [sent] <+:
        (client.run urls call replies).1 := by
    intro index sent found
    rw [reached_of_getElem? found]
    exact take_prefix _ _
  constructor
  · intro keeps index target found foreign
    rw [getElem?_map, Option.map_eq_some_iff] at found
    obtain ⟨sent, found, rfl⟩ := found
    have member := mem_of_getElem? found
    rw [origin_of_mem_run member] at foreign
    have silent : ∀ name ∈ credentialNames, ¬ sent.Carries name := by
      intro name credential carried
      exact foreign (keeps sent member name credential carried)
    have carries : ∀ name ∈ credentialNames, Given call.headers name → name = authorizationName ∧
          ∃ passed ∈ (client.run urls call replies).1.take index ++ [sent],
            urls.host passed.url ≠ urls.host call.url := by
      intro name credential given
      have unsent := silent name credential
      rw [carries_run_iff (credentialNames_foreign name credential) (chain found)] at unsent
      simpa [given] using unsent
    refine ⟨?_, ?_, ?_⟩
    · intro given
      exact absurd (carries cookieName (by decide) given).1 (by decide)
    · intro given
      exact absurd (carries proxyAuthorizationName (by decide) given).1 (by decide)
    intro given
    obtain ⟨-, passed, among, changed⟩ := carries authorizationName (by decide) given
    rw [reached_of_getElem? found] at among
    rw [← map_take]
    exact ⟨passed.url, mem_map_of_mem among, changed⟩
  · intro discreet sent member name credential carried
    by_contra foreign
    obtain ⟨index, found⟩ := mem_iff_getElem?.mp member
    rw [carries_run_iff (credentialNames_foreign name credential) (chain found)] at carried
    obtain ⟨cookie, proxy, authorization⟩ := discreet index sent.url
      (by rw [getElem?_map, found]; rfl) (by rw [origin_of_mem_run member]; exact foreign)
    simp only [credentialNames, mem_cons, not_mem_nil, or_false] at credential
    rcases credential with rfl | rfl | rfl
    · obtain ⟨url, among, changed⟩ := authorization carried.1
      rw [← map_take, ← reached_of_getElem? found] at among
      obtain ⟨passed, before, rfl⟩ := mem_map.mp among
      exact changed (carried.2 rfl passed before)
    · exact cookie carried.1
    · exact proxy carried.1

theorem credentials_kept_iff_discreet (client : Client) (urls : UrlFunctions)
    (method url : PhpString) (headers : Table PhpString PhpValue)
    (body : PhpString) (replies : List Reply) :
    (client.request urls method url headers body replies).1.length ≤ client.maxRedirects + 1 ∧
      (KeepsCredentials urls url (client.request urls method url headers body replies).1 ↔
        Discreet urls url headers ((client.targets urls url 0 replies).take
          (client.request urls method url headers body replies).1.length)) := by
  dsimp only [Client.request]
  split
  · refine ⟨Nat.zero_le _, ?_⟩
    constructor
    · intro _ index target found
      cases found
    · intro _ sent member
      cases member
  · refine ⟨length_run_le, ?_⟩
    rw [← urls_run]
    exact keepsCredentials_run_iff

def twoHosts : UrlFunctions where
  parseUrl url := match url with
    | [104, 116, 116, 112, 58, 47, 47, host, 47] =>
      some ⟨some httpScheme, some [host], none, none, none, some [47], none⟩
    | _ => none
  isHost _ := true

def movedToOther : ClientResponse where
  status := 302
  headers := (∅ : Table PhpString (List PhpString)).insert locationName
    [asciiBytes "http://b/"]
  body := []

theorem cookie_follows_redirect :
    ¬ ∀ (client : Client) (urls : UrlFunctions) (method url : PhpString)
      (headers : Table PhpString PhpValue) (body : PhpString) (replies : List Reply),
      KeepsCredentials urls url (client.request urls method url headers body replies).1 := by
  intro all
  have keeps := all ⟨5, []⟩ twoHosts getMethod (asciiBytes "http://a/")
    ((∅ : Table PhpString PhpValue).insert cookieName (.string [115]))
    [] [.answered movedToOther, .broken]
  have second := keeps _ (mem_cons_of_mem _ mem_cons_self)
    cookieName (by decide) ⟨[115], mem_cons_self⟩
  exact absurd second (by decide)

end Pam.Runtime
