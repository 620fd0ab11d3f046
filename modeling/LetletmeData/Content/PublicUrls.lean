import LetletmeData.Library.FormQueries
import LetletmeData.Library.UrlTexts

/-!
# Canonical public URLs

A public link is written in one way: without its fragment and without the parameters that campaigns
add. When such a parameter is removed, the whole query is written as a form writes it; a query
without them is kept as it is.
-/

namespace LetletmeData.PublicUrls

open LetletmeData.Library

/-- The parameters of a query. -/
abbrev Parameters := List (List Char × List Char)

/-- `TRACKING_PARAMETERS`. -/
def trackingParameters : List String :=
  ["fbclid", "gclid", "mc_cid", "mc_eid", "utm_campaign", "utm_content", "utm_medium",
    "utm_source", "utm_term"]

/-- Whether `TRACKING_PARAMETERS` has a parameter in lower case. Only letters of ASCII have a lower
case that is one of theirs. -/
def isTracking (parameter : List Char) : Bool :=
  trackingParameters.contains (String.ofList (parameter.map Char.toLower))

/-- `url.searchParams`. -/
def searchParams (url : Url) : Parameters := parseForm (url.parts.query.getD "").toList

/-- The query that `searchParams` leaves in its URL; an empty text is no query. -/
def writtenQuery (parameters : Parameters) : Option String :=
  if serializeForm parameters = [] then none
  else some (String.ofList (serializeForm parameters))

/-- A URL with another query. -/
def withQuery (url : Url) (query : Option String) : Url :=
  { url with parts := { url.parts with query := query } }

/-- `url.searchParams.delete(parameter)`, on the parameters and their URL. -/
def deleteParameter (state : Parameters × Url) (parameter : List Char) : Parameters × Url :=
  let parameters := state.1.filter (·.1 ≠ parameter)
  (parameters, withQuery state.2 (writtenQuery parameters))

/-- The loop of `canonicalizePublicUrl`, over the names that the parameters have before it. -/
def deleteTracking (names : List (List Char)) (state : Parameters × Url) : Parameters × Url :=
  names.foldl
    (fun state parameter =>
      if isTracking parameter then deleteParameter state parameter else state) state

/-- What `canonicalizePublicUrl` does to a URL. -/
def canonicalUrl (host : UrlHost) (url : Url) : Url :=
  let url := { url with parts := { url.parts with fragment := none } }
  let url := url.setHostname host
    (String.ofList (url.parts.hostname.toList.map Char.toLower))
  (deleteTracking ((searchParams url).map Prod.fst) (searchParams url, url)).2

/-- What `canonicalizePublicUrl` throws: the error of `new URL`, and
`Unsupported public URL scheme`. -/
inductive PublicUrlError where
  | invalidUrl
  | unsupportedScheme
  deriving DecidableEq

/-- `canonicalizePublicUrl`. -/
def canonicalizePublicUrl (host : UrlHost) (value : String) : Except PublicUrlError String :=
  match parseUrl host value with
  | none => .error .invalidUrl
  | some url =>
    if url.scheme = "http" ∨ url.scheme = "https" then .ok (canonicalUrl host url).href
    else .error .unsupportedScheme

/-! ### The canonical URL -/

/-- The parameters that are left. -/
def withoutTracking (parameters : Parameters) : Parameters :=
  parameters.filter fun parameter => !isTracking parameter.1

/-- Whether there is a parameter to remove. -/
def HasTracking (parameters : Parameters) : Prop :=
  ∃ parameter ∈ parameters, isTracking parameter.1 = true

/-- The loop removes the parameters that are tracking ones and among the names, and writes the query
if there is such a name. -/
theorem deleteTracking_eq (names : List (List Char)) (parameters : Parameters) (url : Url) :
    deleteTracking names (parameters, url) =
      (parameters.filter fun parameter => !(isTracking parameter.1 && names.contains parameter.1),
        if names.any isTracking then
          withQuery url (writtenQuery (parameters.filter fun parameter =>
            !(isTracking parameter.1 && names.contains parameter.1)))
        else url) := by
  induction names generalizing parameters url with
  | nil => simp [deleteTracking]
  | cons name names ih =>
    by_cases hname : isTracking name = true
    · have hfilter : (parameters.filter (·.1 ≠ name)).filter
          (fun parameter => !(isTracking parameter.1 && names.contains parameter.1)) =
            parameters.filter fun parameter =>
              !(isTracking parameter.1 && (name :: names).contains parameter.1) := by
        rw [List.filter_filter]
        refine List.filter_congr fun parameter _ => ?_
        by_cases hsame : parameter.1 = name
        · simp [hsame, hname]
        · simp [hsame]
      have hstep : deleteTracking (name :: names) (parameters, url) =
          deleteTracking names (parameters.filter (·.1 ≠ name),
            withQuery url (writtenQuery (parameters.filter (·.1 ≠ name)))) := by
        rw [deleteTracking, List.foldl_cons, if_pos hname]
        rfl
      rw [hstep, ih, hfilter, List.any_cons, hname, Bool.true_or, if_pos rfl]
      refine congrArg (Prod.mk _) ?_
      split
      next => rfl
      next hnone =>
        have hrest : (parameters.filter (·.1 ≠ name)).filter
            (fun parameter => !(isTracking parameter.1 && names.contains parameter.1)) =
              parameters.filter (·.1 ≠ name) := by
          refine List.filter_eq_self.mpr fun parameter _ => ?_
          by_cases htracking : isTracking parameter.1 = true
          · have habsent : names.contains parameter.1 = false := by
              rw [Bool.eq_false_iff, Ne, List.contains_iff_mem]
              exact fun hmem => hnone (List.any_eq_true.mpr ⟨_, hmem, htracking⟩)
            rw [habsent, Bool.and_false, Bool.not_false]
          · rw [Bool.eq_false_iff.mpr htracking, Bool.false_and, Bool.not_false]
        rw [← hfilter, hrest]
    · have hstep : deleteTracking (name :: names) (parameters, url) =
          deleteTracking names (parameters, url) := by
        rw [deleteTracking, List.foldl_cons, if_neg hname]
        rfl
      have hfilter : (fun parameter : List Char × List Char =>
          !(isTracking parameter.1 && (name :: names).contains parameter.1)) =
            fun parameter => !(isTracking parameter.1 && names.contains parameter.1) := by
        funext parameter
        by_cases hsame : parameter.1 = name
        · rw [hsame, Bool.eq_false_iff.mpr hname, Bool.false_and, Bool.false_and]
        · simp [hsame]
      rw [hstep, ih, List.any_cons, Bool.eq_false_iff.mpr hname, Bool.false_or, hfilter]

/-- Over all names, the tracking parameters are removed. -/
theorem deleteTracking_names (parameters : Parameters) (url : Url) :
    (deleteTracking (parameters.map Prod.fst) (parameters, url)).2 =
      if parameters.any fun parameter => isTracking parameter.1 then
        withQuery url (writtenQuery (withoutTracking parameters))
      else url := by
  have hfilter : (parameters.filter fun parameter =>
      !(isTracking parameter.1 && (parameters.map Prod.fst).contains parameter.1)) =
        withoutTracking parameters := by
    refine List.filter_congr fun parameter hparameter => ?_
    have hmem : (parameters.map Prod.fst).contains parameter.1 = true :=
      List.contains_iff_mem.mpr (List.mem_map_of_mem hparameter)
    rw [hmem, Bool.and_true]
  rw [deleteTracking_eq, hfilter, List.any_map]
  rfl

/-- The canonical URL of a URL as the parser leaves it. -/
theorem canonicalUrl_eq {host : UrlHost} {url : Url} (h : IsWritten host url) :
    canonicalUrl host url =
      { url with parts := { url.parts with
          fragment := none
          query := if (searchParams url).any fun parameter => isTracking parameter.1 then
              writtenQuery (withoutTracking (searchParams url))
            else url.parts.query } } := by
  have hplain : IsWritten host { url with parts := { url.parts with fragment := none } } :=
    ⟨h.scheme, h.username, h.password, h.hostname, h.hostText, h.port, h.path, h.segments, h.query,
      nofun⟩
  have hlower : String.ofList (url.parts.hostname.toList.map Char.toLower) =
      url.parts.hostname := by
    rw [List.map_congr_left fun c hc => toLower_of_mem_hostText h.hostText hc, List.map_id',
      String.ofList_toList]
  rw [canonicalUrl]
  dsimp only
  rw [hlower, setHostname_self hplain, deleteTracking_names]
  have hsame : searchParams { url with parts := { url.parts with fragment := none } } =
    searchParams url := rfl
  rw [hsame]
  split
  next => rfl
  next => rfl

/-- The parameters of a written query. -/
theorem searchParams_writtenQuery (url : Url) (parameters : Parameters) :
    searchParams (withQuery url (writtenQuery parameters)) = parameters := by
  have hread : searchParams (withQuery url (writtenQuery parameters)) =
      parseForm ((writtenQuery parameters).getD "").toList := rfl
  rw [hread, writtenQuery]
  split
  next hnone =>
    rw [serializeForm_eq_nil_iff.mp hnone]
    rfl
  next => rw [Option.getD_some, String.toList_ofList, parseForm_serializeForm]

/-- Nothing is removed twice. -/
theorem withoutTracking_any (parameters : Parameters) :
    (withoutTracking parameters).any (fun parameter => isTracking parameter.1) = false := by
  rw [withoutTracking, List.any_filter, List.any_eq_false]
  intro parameter _
  cases isTracking parameter.1 <;> decide

/-- A canonical URL is as the parser leaves it. -/
theorem isWritten_canonicalUrl {host : UrlHost} {url : Url} (h : IsWritten host url) :
    IsWritten host (canonicalUrl host url) := by
  rw [canonicalUrl_eq h]
  refine ⟨h.scheme, h.username, h.password, h.hostname, h.hostText, h.port, h.path, h.segments, ?_,
    nofun⟩
  intro query hquery c hc
  split at hquery
  next =>
    rw [writtenQuery] at hquery
    split at hquery
    next => exact nomatch hquery
    next =>
      obtain rfl := Option.some.inj hquery
      rw [String.toList_ofList] at hc
      exact inQuerySet_of_mem_serializeForm hc
  next => exact h.query query hquery c hc

/-- A canonical URL is its own canonical one. -/
theorem canonicalUrl_idempotent {host : UrlHost} {url : Url} (h : IsWritten host url) :
    canonicalUrl host (canonicalUrl host url) = canonicalUrl host url := by
  rw [canonicalUrl_eq (isWritten_canonicalUrl h), canonicalUrl_eq h]
  by_cases htracking : ((searchParams url).any fun parameter => isTracking parameter.1) = true
  · simp only [if_pos htracking]
    have hread := searchParams_writtenQuery { url with parts := { url.parts with fragment := none } }
      (withoutTracking (searchParams url))
    rw [withQuery] at hread
    rw [hread, withoutTracking_any]
    rfl
  · simp only [if_neg htracking]
    have hread : searchParams
        { url with parts := { url.parts with fragment := none, query := url.parts.query } } =
          searchParams url := rfl
    rw [hread, if_neg htracking]

/-- A link whose URL is one of the two schemes is canonicalized. -/
theorem canonicalizePublicUrl_eq {host : UrlHost} {value : String} {url : Url}
    (h : parseUrl host value = some url) (hscheme : url.scheme = "http" ∨ url.scheme = "https") :
    canonicalizePublicUrl host value = .ok (canonicalUrl host url).href := by
  rw [canonicalizePublicUrl, h]
  exact if_pos hscheme

/-- What is canonicalized is a link of one of the two schemes. -/
theorem canonicalizePublicUrl_eq_ok {host : UrlHost} {value canonical : String}
    (h : canonicalizePublicUrl host value = .ok canonical) :
    ∃ url, parseUrl host value = some url ∧ (url.scheme = "http" ∨ url.scheme = "https") ∧
      canonical = (canonicalUrl host url).href := by
  rw [canonicalizePublicUrl] at h
  split at h
  next => exact nomatch h
  next url hurl =>
    split at h
    next hscheme => exact ⟨url, hurl, hscheme, (Except.ok.inj h).symm⟩
    next => exact nomatch h

/-- Written URLs have different texts. -/
theorem href_injective {host : UrlHost} {left right : Url} (hleft : IsWritten host left)
    (hright : IsWritten host right) (h : left.href = right.href) : left = right := by
  have hread := parseUrl_href hleft
  rw [h, parseUrl_href hright] at hread
  exact (Option.some.inj hread).symm

/-! ### Added parameters -/

/-- The pieces of a query, of which an empty one has none. -/
def queryPieces (query : Option String) : List (List Char) :=
  if query.getD "" = "" then [] else (query.getD "").toList.splitOn '&'

/-- Pieces to which tracking parameters are added, at any places. -/
inductive Adds : List (List Char) → List (List Char) → Prop where
  | nil : Adds [] []
  | keep {left right : List (List Char)} (piece : List Char) (h : Adds left right) :
      Adds (piece :: left) (piece :: right)
  | add {left right : List (List Char)} {piece : List Char}
      (hpiece : isTracking (readFormPair piece).1 = true) (h : Adds left right) :
      Adds left (piece :: right)

/-- A URL and the same one with tracking parameters, at least one. -/
structure AddsTracking (left right : Url) : Prop where
  scheme : right.scheme = left.scheme
  authority : right.parts.toUrlAuthority = left.parts.toUrlAuthority
  path : right.parts.path = left.parts.path
  pieces : Adds (queryPieces left.parts.query) (queryPieces right.parts.query)
  more : (queryPieces left.parts.query).length < (queryPieces right.parts.query).length

/-- The parameters that the pieces of a query write. -/
theorem searchParams_eq (url : Url) :
    searchParams url = readFormPairs (queryPieces url.parts.query) := by
  rw [searchParams, queryPieces]
  split
  next hempty =>
    rw [hempty]
    rfl
  next => rfl

/-- Added parameters are removed. -/
theorem withoutTracking_of_adds {left right : List (List Char)} (h : Adds left right) :
    withoutTracking (readFormPairs right) = withoutTracking (readFormPairs left) := by
  have hcons : ∀ piece pieces, readFormPairs (piece :: pieces) =
      (if piece ≠ [] then [readFormPair piece] else []) ++ readFormPairs pieces := by
    intro piece pieces
    by_cases hpiece : piece = [] <;> simp [readFormPairs, hpiece]
  induction h with
  | nil => rfl
  | keep piece _ ih =>
    rw [hcons, hcons, withoutTracking, List.filter_append, withoutTracking, List.filter_append]
    exact congrArg (_ ++ ·) ih
  | @add left right piece hpiece _ ih =>
    have hremoved : (if piece ≠ [] then [readFormPair piece] else []).filter
        (fun parameter => !isTracking parameter.1) = [] := by
      split
      next => simp [hpiece]
      next => rfl
    rw [hcons, withoutTracking, List.filter_append, hremoved, List.nil_append]
    exact ih

/-- A longer query has a tracking parameter. -/
theorem any_of_adds {left right : List (List Char)} (h : Adds left right)
    (hmore : left.length < right.length) :
    (readFormPairs right).any (fun parameter => isTracking parameter.1) = true := by
  have hempty : isTracking (readFormPair []).1 = false := by decide
  have hpiece : ∃ piece ∈ right, isTracking (readFormPair piece).1 = true := by
    induction h with
    | nil => exact absurd hmore (Nat.lt_irrefl _)
    | keep piece _ ih =>
      obtain ⟨found, hmem, hfound⟩ := ih (Nat.lt_of_succ_lt_succ hmore)
      exact ⟨found, List.mem_cons_of_mem _ hmem, hfound⟩
    | add hpiece => exact ⟨_, List.mem_cons_self, hpiece⟩
  obtain ⟨piece, hmem, hfound⟩ := hpiece
  refine List.any_eq_true.mpr ⟨readFormPair piece, List.mem_map_of_mem ?_, hfound⟩
  refine List.mem_filter.mpr ⟨hmem, decide_eq_true ?_⟩
  rintro rfl
  exact absurd (hempty.symm.trans hfound) (by decide)

/-- The canonical URL of a link with tracking parameters: the query is written anew. -/
theorem canonicalUrl_addsTracking {host : UrlHost} {left right : Url} (hright : IsWritten host right)
    (h : AddsTracking left right) :
    canonicalUrl host right =
      { left with parts := { left.parts with
          fragment := none
          query := writtenQuery (withoutTracking (searchParams left)) } } := by
  have hany : ((searchParams right).any fun parameter => isTracking parameter.1) = true := by
    rw [searchParams_eq]
    exact any_of_adds h.pieces h.more
  have hleft : withoutTracking (searchParams right) = withoutTracking (searchParams left) := by
    rw [searchParams_eq, searchParams_eq]
    exact withoutTracking_of_adds h.pieces
  rw [canonicalUrl_eq hright, if_pos hany, hleft]
  obtain ⟨scheme, ⟨authority, path, query, fragment⟩⟩ := right
  obtain ⟨scheme', ⟨authority', path', query', fragment'⟩⟩ := left
  obtain rfl : scheme = scheme' := h.scheme
  obtain rfl : authority = authority' := h.authority
  obtain rfl : path = path' := h.path
  rfl

/-- The query is kept when it is as a form writes it, or is written anew anyway. -/
def IsFormWritten (url : Url) : Prop :=
  HasTracking (searchParams url) ∨ writtenQuery (searchParams url) = url.parts.query

/-- Adding tracking parameters leads to the same canonical URL exactly if the query is written as a
form writes it, or is written anew anyway. -/
theorem canonicalUrl_eq_iff {host : UrlHost} {left right : Url} (hleft : IsWritten host left)
    (hright : IsWritten host right) (h : AddsTracking left right) :
    canonicalUrl host right = canonicalUrl host left ↔ IsFormWritten left := by
  have hany : ((searchParams left).any fun parameter => isTracking parameter.1) = true ↔
      HasTracking (searchParams left) := List.any_eq_true
  rw [canonicalUrl_addsTracking hright h, canonicalUrl_eq hleft, IsFormWritten]
  by_cases htracking : HasTracking (searchParams left)
  · rw [if_pos (hany.mpr htracking)]
    exact iff_of_true rfl (.inl htracking)
  · have hkept : withoutTracking (searchParams left) = searchParams left := by
      refine List.filter_eq_self.mpr fun parameter hparameter => ?_
      rw [Bool.not_eq_true', Bool.eq_false_iff]
      exact fun hfound => htracking ⟨parameter, hparameter, hfound⟩
    rw [if_neg (mt hany.mp htracking), hkept]
    constructor
    · intro hsame
      exact .inr (congrArg (fun url : Url => url.parts.query) hsame)
    · rintro (htrack | hquery)
      · exact absurd htrack htracking
      · rw [hquery]

/-- A tracking parameter can be added to every URL. -/
theorem exists_addsTracking {host : UrlHost} {left : Url} (h : IsWritten host left) :
    ∃ right, IsWritten host right ∧ AddsTracking left right := by
  have htracking : isTracking (readFormPair "utm_source=x".toList).1 = true := by decide
  have hplain : ∀ c ∈ "utm_source=x".toList, inQuerySet c = false := by
    have hall : "utm_source=x".toList.all (fun c => !inQuerySet c) = true := by decide
    exact fun c hc => (Bool.not_eq_true' _).mp (List.all_eq_true.mp hall c hc)
  have hwritten : ∀ query : List Char, (∀ c ∈ query, inQuerySet c = false) →
      IsWritten host (withQuery left (some (String.ofList query))) := by
    intro query hquery
    refine ⟨h.scheme, h.username, h.password, h.hostname, h.hostText, h.port, h.path, h.segments,
      fun found hfound c hc => ?_, h.fragment⟩
    obtain rfl := Option.some.inj hfound
    rw [String.toList_ofList] at hc
    exact hquery c hc
  by_cases hempty : left.parts.query.getD "" = ""
  · have hpieces : queryPieces left.parts.query = [] := if_pos hempty
    have hone : queryPieces (some "utm_source=x") = ["utm_source=x".toList] := by decide
    refine ⟨withQuery left (some (String.ofList "utm_source=x".toList)), hwritten _ hplain,
      rfl, rfl, rfl, ?_, ?_⟩
    · rw [hpieces]
      exact hone ▸ .add htracking .nil
    · rw [hpieces]
      exact hone ▸ Nat.zero_lt_one
  · obtain ⟨query, hquery⟩ : ∃ query, left.parts.query = some query := by
      cases hfound : left.parts.query with
      | none => exact absurd (hfound ▸ rfl) hempty
      | some query => exact ⟨query, rfl⟩
    have hpieces : queryPieces left.parts.query = query.toList.splitOn '&' := by
      rw [queryPieces, if_neg hempty, hquery]
      rfl
    have hmore : queryPieces (some (String.ofList (query.toList ++ '&' :: "utm_source=x".toList))) =
        query.toList.splitOn '&' ++ ["utm_source=x".toList] := by
      rw [queryPieces, if_neg]
      · rw [Option.getD_some, String.toList_ofList, List.splitOn_append_cons_self]
        rfl
      · intro hnone
        have hchars := congrArg String.toList hnone
        rw [Option.getD_some, String.toList_ofList] at hchars
        exact List.append_ne_nil_of_right_ne_nil _ (List.cons_ne_nil _ _) hchars
    have hadds : ∀ pieces, Adds pieces (pieces ++ ["utm_source=x".toList]) := by
      intro pieces
      induction pieces with
      | nil => exact .add htracking .nil
      | cons piece pieces ih => exact .keep piece ih
    refine ⟨withQuery left (some (String.ofList (query.toList ++ '&' :: "utm_source=x".toList))),
      hwritten _ ?_, rfl, rfl, rfl, ?_, ?_⟩
    · intro c hc
      obtain hc | hc := List.mem_append.mp hc
      · exact h.query query hquery c hc
      · obtain rfl | hc := List.mem_cons.mp hc
        · rfl
        · exact hplain c hc
    · rw [hpieces]
      exact hmore ▸ hadds _
    · rw [hpieces]
      refine lt_of_lt_of_eq ?_ (congrArg List.length hmore).symm
      rw [List.length_append]
      exact Nat.lt_succ_self _

/-! ### Links -/

variable {host : UrlHost}

/-- A canonical link is its own canonical one. -/
theorem canonicalizePublicUrl_idempotent (hhost : host.Lawful) {value canonical : String}
    (h : canonicalizePublicUrl host value = .ok canonical) :
    canonicalizePublicUrl host canonical = .ok canonical := by
  obtain ⟨url, hurl, hscheme, rfl⟩ := canonicalizePublicUrl_eq_ok h
  have hwritten := isWritten_of_parseUrl hhost hurl hscheme.symm
  have hcanonical := isWritten_canonicalUrl hwritten
  rw [canonicalizePublicUrl_eq (parseUrl_href hcanonical) hcanonical.scheme.symm,
    canonicalUrl_idempotent hwritten]

/-- A link has one canonical link: it is its own, and all links that differ from the first one in
added tracking parameters have the same. -/
def HasOneCanonical (host : UrlHost) (link : String) : Prop :=
  (∀ canonical, canonicalizePublicUrl host link = .ok canonical →
    canonicalizePublicUrl host canonical = .ok canonical) ∧
  ∀ tracked url trackedUrl, parseUrl host link = some url →
    parseUrl host tracked = some trackedUrl → AddsTracking url trackedUrl →
      canonicalizePublicUrl host tracked = canonicalizePublicUrl host link

/-- A link has one canonical link exactly if its query is written as a form writes it, or is written
anew anyway. -/
theorem hasOneCanonical_iff (hhost : host.Lawful) {link : String} {url : Url}
    (hurl : parseUrl host link = some url) (hscheme : url.scheme = "http" ∨ url.scheme = "https") :
    HasOneCanonical host link ↔ IsFormWritten url := by
  have hwritten := isWritten_of_parseUrl hhost hurl hscheme.symm
  have hlink := canonicalizePublicUrl_eq hurl hscheme
  constructor
  · rintro ⟨_, hsame⟩
    obtain ⟨tracked, htracked, hadds⟩ := exists_addsTracking hwritten
    have hread := parseUrl_href htracked
    have hequal := hsame _ _ _ hurl hread hadds
    rw [hlink, canonicalizePublicUrl_eq hread htracked.scheme.symm] at hequal
    have hurls := href_injective (isWritten_canonicalUrl htracked) (isWritten_canonicalUrl hwritten)
      (Except.ok.inj hequal)
    exact (canonicalUrl_eq_iff hwritten htracked hadds).mp hurls
  · intro hform
    refine ⟨fun canonical => canonicalizePublicUrl_idempotent hhost, ?_⟩
    intro tracked other trackedUrl hother hread hadds
    obtain rfl := Option.some.inj (hurl.symm.trans hother)
    have htracked : trackedUrl.scheme = "http" ∨ trackedUrl.scheme = "https" :=
      hadds.scheme.symm ▸ hscheme
    have hurls := (canonicalUrl_eq_iff hwritten (isWritten_of_parseUrl hhost hread htracked.symm)
      hadds).mpr hform
    rw [hlink, canonicalizePublicUrl_eq hread htracked, hurls]

/-- A parser of hosts that knows domains of ASCII characters only. -/
def asciiHost : UrlHost where
  parseHost text :=
    let name := text.toList.map Char.toLower
    if name ≠ [] ∧ name.all isDomainChar = true then some (String.ofList name) else none
  parseOther _ _ := none

/-- The parser of ASCII domains writes them in one way. -/
theorem asciiHost_lawful : asciiHost.Lawful := by
  have hread : ∀ text hostname, asciiHost.parseHost text = some hostname →
      hostname.toList ≠ [] ∧ (∀ c ∈ hostname.toList, isDomainChar c = true) ∧
        ∀ c ∈ hostname.toList, c.toLower = c := by
    intro text hostname h
    dsimp only [asciiHost] at h
    split at h
    next hname =>
      obtain rfl := Option.some.inj h
      rw [String.toList_ofList]
      refine ⟨hname.1, List.all_eq_true.mp hname.2, fun c hc => ?_⟩
      obtain ⟨original, _, rfl⟩ := List.mem_map.mp hc
      exact toLower_toLower original
    next => exact nomatch h
  constructor
  · intro text hostname h
    obtain ⟨hne, hchars, _⟩ := hread text hostname h
    exact .inl ⟨fun hempty => hne (hempty ▸ rfl), hchars⟩
  · intro text hostname h
    obtain ⟨hne, hchars, hlower⟩ := hread text hostname h
    have hself : hostname.toList.map Char.toLower = hostname.toList := by
      rw [List.map_congr_left hlower, List.map_id']
    dsimp only [asciiHost]
    rw [hself, if_pos ⟨hne, List.all_eq_true.mpr hchars⟩, String.ofList_toList]

/-- A link whose query a form writes in the same way has one canonical link. -/
theorem hasOneCanonical_written :
    HasOneCanonical asciiHost "https://FPL.example/news?id=1#top" := by
  have hurl : parseUrl asciiHost "https://FPL.example/news?id=1#top" =
      some ⟨"https", ⟨⟨"", "", "fpl.example", none⟩, ["news"], some "id=1", some "top"⟩⟩ := by
    decide
  exact (hasOneCanonical_iff asciiHost_lawful hurl (.inr rfl)).mpr (.inr (by decide))

/-- A link whose query has an escaped space has another canonical link with a tracking parameter
than without it. -/
theorem escapedSpace_twoCanonical :
    canonicalizePublicUrl asciiHost "https://fpl.example/news?q=a%20b" =
        .ok "https://fpl.example/news?q=a%20b" ∧
      canonicalizePublicUrl asciiHost "https://fpl.example/news?q=a%20b&utm_source=x" =
        .ok "https://fpl.example/news?q=a+b" ∧
      ¬ HasOneCanonical asciiHost "https://fpl.example/news?q=a%20b" := by
  have hlink : canonicalizePublicUrl asciiHost "https://fpl.example/news?q=a%20b" =
      .ok "https://fpl.example/news?q=a%20b" := by decide
  have htracked : canonicalizePublicUrl asciiHost
      "https://fpl.example/news?q=a%20b&utm_source=x" = .ok "https://fpl.example/news?q=a+b" := by
    decide
  refine ⟨hlink, htracked, fun h => ?_⟩
  have hpieces : queryPieces (some "q=a%20b") = ["q=a%20b".toList] ∧
      queryPieces (some "q=a%20b&utm_source=x") =
        ["q=a%20b".toList, "utm_source=x".toList] := by decide
  have hsame := h.2 "https://fpl.example/news?q=a%20b&utm_source=x"
    ⟨"https", ⟨⟨"", "", "fpl.example", none⟩, ["news"], some "q=a%20b", none⟩⟩
    ⟨"https", ⟨⟨"", "", "fpl.example", none⟩, ["news"], some "q=a%20b&utm_source=x", none⟩⟩
    (by decide) (by decide)
    { scheme := rfl
      authority := rfl
      path := rfl
      pieces := by
        rw [hpieces.1, hpieces.2]
        exact .keep _ (.add (by decide) .nil)
      more := by
        rw [hpieces.1, hpieces.2]
        decide }
  rw [hlink, htracked] at hsame
  exact absurd (Except.ok.inj hsame) (by decide)

end LetletmeData.PublicUrls
