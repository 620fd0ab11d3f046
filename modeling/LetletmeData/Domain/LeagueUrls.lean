import LetletmeData.Domain.Tournament
import LetletmeData.Domain.TournamentPlan
import LetletmeData.Library.NumberTexts
import LetletmeData.Library.Transactions
import LetletmeData.Library.Urls

/-!
# League URLs

A league is given by the URL of one of its pages. The page is accepted in any letter case of its
suffix, but the type of the league is inferred of the suffix as it is spelled, of whatever standings
come first behind the league.
-/

namespace LetletmeData

open LetletmeData.Library

/-- `FPL_HOSTNAME`. -/
def fplHostname : String := "fantasy.premierleague.com"

/-- The segments of a path that are not empty: `pathname.split('/').filter(Boolean)`. -/
def pathSegments (url : Url) : List String :=
  ((url.pathname.toList.splitOn '/').filter (· ≠ [])).map String.ofList

/-- `/^[a-z]{2}(?:-[a-z]{2})?$/i`. -/
def isLocale (segment : String) : Bool :=
  match segment.toList with
  | [a, b] => a.isAlpha && b.isAlpha
  | [a, b, '-', c, d] => a.isAlpha && b.isAlpha && c.isAlpha && d.isAlpha
  | _ => false

/-- The segments from `leagues` on, which may be behind a locale. -/
def leagueSegments : List String → Option (List String)
  | "leagues" :: rest => some ("leagues" :: rest)
  | locale :: "leagues" :: rest => if isLocale locale then some ("leagues" :: rest) else none
  | _ => none

/-- The segments that have a page suffix behind them. -/
def isTypeSurface (segment : String) : Bool := segment = "standings" || segment = "new-entries"

/-- `inferLeagueType`. -/
def inferLeagueType (segments : List String) : LeagueType :=
  match (segments.dropWhile fun segment => !isTypeSurface segment)[1]? with
  | some suffix => if suffix = "h" ∨ suffix = "h2h" then .h2h else .classic
  | none => .classic

/-- The page suffixes in lower case. -/
def pageSuffixes : List String := ["c", "classic", "h", "h2h"]

/-- The page suffix that is checked. -/
def standingsSuffix (surface : String) (behind : List String) : Option String :=
  if isTypeSurface surface then behind.head? else none

/-- `parseLeagueUrl`. Paths are in percent encoding, so only ASCII letters have a case. -/
def parseLeagueUrl (host : UrlHost) (rawUrl : String) :
    Except ValidationError (ℕ × LeagueType) := do
  let parsedUrl ← orThrow (parseUrl host rawUrl)
    ⟨"Please enter a complete Fantasy Premier League URL.", "TOURNAMENT_LEAGUE_URL_INVALID"⟩
  throwIf (parsedUrl.scheme ≠ "https" ∨ parsedUrl.parts.hostname ≠ fplHostname ∨
      parsedUrl.parts.port.isSome ∨ parsedUrl.parts.username ≠ "" ∨ parsedUrl.parts.password ≠ "")
    ⟨"Only URLs from fantasy.premierleague.com are allowed.", "TOURNAMENT_LEAGUE_URL_HOST_INVALID"⟩
  match leagueSegments (pathSegments parsedUrl) with
  | some (leagues :: id :: surface :: behind) =>
    throwIf (surface ∉ ["standings", "new-entries", "admin", "join"])
      ⟨"Unsupported league URL format.", "TOURNAMENT_LEAGUE_URL_FORMAT_INVALID"⟩
    throwIf (∃ suffix ∈ standingsSuffix surface behind, suffix.toLower ∉ pageSuffixes)
      ⟨"Unsupported league standings type.", "TOURNAMENT_LEAGUE_URL_FORMAT_INVALID"⟩
    let leagueId ← orThrow ((numberOfText id).filter fun number =>
        IsSafeInteger number ∧ 0 < number)
      ⟨"League ID could not be parsed from the URL.", "TOURNAMENT_LEAGUE_ID_INVALID"⟩
    return (leagueId.num.toNat, inferLeagueType (leagues :: id :: surface :: behind))
  | _ =>
    .error ⟨"Unsupported league URL format.", "TOURNAMENT_LEAGUE_URL_FORMAT_INVALID"⟩

/-! ### Pages -/

/-- The page of a league that a URL names. -/
structure LeaguePage where
  id : String
  surface : String
  behind : List String
  deriving DecidableEq

/-- The page of the league that a text names. -/
def leaguePage (host : UrlHost) (rawUrl : String) : Option LeaguePage :=
  (parseUrl host rawUrl).bind fun url =>
    match leagueSegments (pathSegments url) with
    | some (_ :: id :: surface :: behind) => some ⟨id, surface, behind⟩
    | _ => none

/-- The decimal value of a segment. -/
def decimalSegment (segment : String) : Option ℕ :=
  if isDigits segment.toList then some (decimalValue segment.toList) else none

/-- The suffixes of head-to-head pages. -/
def headToHeadSuffixes : List String := ["h", "h2h"]

/-- The league is the one of the id segment, and it is head-to-head exactly if the page is. -/
def LeaguePage.Agrees (page : LeaguePage) (leagueId : ℕ) (leagueType : LeagueType) : Prop :=
  decimalSegment page.id = some leagueId ∧
    (leagueType = .h2h ↔ ∃ suffix ∈ standingsSuffix page.surface page.behind,
      suffix.toLower ∈ headToHeadSuffixes)

/-- The id is written in digits, the suffix of a head-to-head page in small letters, and behind a
page without a suffix no standings come first that are head-to-head. -/
def LeaguePage.PlainlySpelled (page : LeaguePage) : Prop :=
  isDigits page.id.toList = true ∧
    (isTypeSurface page.surface = true → ∀ suffix ∈ page.behind.head?,
      suffix.toLower ∈ headToHeadSuffixes → suffix ∈ headToHeadSuffixes) ∧
    (isTypeSurface page.surface = false → ∀ before standings suffix after,
      page.behind = before ++ standings :: suffix :: after →
      (∀ segment ∈ before, isTypeSurface segment = false) → isTypeSurface standings = true →
      suffix ∉ headToHeadSuffixes)

/-- What an accepted text has been checked for. -/
theorem parseLeagueUrl_of_ok {host : UrlHost} {rawUrl : String} {leagueId : ℕ}
    {leagueType : LeagueType} (h : parseLeagueUrl host rawUrl = .ok (leagueId, leagueType)) :
    ∃ page number, leaguePage host rawUrl = some page ∧
      numberOfText page.id = some number ∧ IsSafeInteger number ∧ 0 < number ∧
      leagueId = number.num.toNat ∧
      leagueType = inferLeagueType ("leagues" :: page.id :: page.surface :: page.behind) := by
  obtain ⟨url, hurl, h⟩ := orThrow_bind_eq_ok.mp h
  rw [throwIf_bind_eq_ok] at h
  obtain ⟨-, h⟩ := h
  split at h
  next leagues id surface behind hsegments =>
    rw [throwIf_bind_eq_ok, throwIf_bind_eq_ok] at h
    obtain ⟨-, -, h⟩ := h
    obtain ⟨number, hnumber, h⟩ := orThrow_bind_eq_ok.mp h
    obtain ⟨hnumber, hsafe⟩ := Option.filter_eq_some_iff.mp hnumber
    obtain ⟨rfl, rfl⟩ := Prod.mk.inj (Except.ok.inj h)
    have hleagues : leagues = "leagues" := by
      unfold leagueSegments at hsegments
      split at hsegments
      · exact (List.cons.inj (Option.some.inj hsegments)).1.symm
      · split at hsegments
        · exact (List.cons.inj (Option.some.inj hsegments)).1.symm
        · exact absurd hsegments.symm (Option.some_ne_none _)
      · exact absurd hsegments.symm (Option.some_ne_none _)
    have hsafe := of_decide_eq_true hsafe
    refine ⟨⟨id, surface, behind⟩, number, ?_, hnumber, hsafe.1, hsafe.2, rfl, by rw [hleagues]⟩
    rw [leaguePage, hurl, Option.bind_some, hsegments]
  next => exact absurd h (by simp)

/-- An accepted id is the decimal value of its segment exactly when that has nothing but digits. -/
theorem decimalSegment_eq_iff {id : String} {number : ℚ} (hnumber : numberOfText id = some number)
    (hsafe : IsSafeInteger number) (hpos : 0 < number) :
    decimalSegment id = some number.num.toNat ↔ isDigits id.toList = true := by
  unfold decimalSegment
  split
  next hdigits => simp [hdigits, toNat_num_of_isDigits hdigits hnumber hsafe hpos]
  next hnot => simp [hnot]

/-- Segments without a page suffix in front do not matter to the type. -/
theorem inferLeagueType_cons {segment : String} (h : isTypeSurface segment = false)
    (segments : List String) :
    inferLeagueType (segment :: segments) = inferLeagueType segments := by
  simp [inferLeagueType, h]

/-- Behind standings the next segment is the type. -/
theorem inferLeagueType_surface {segment : String} (h : isTypeSurface segment = true)
    {segments : List String} : inferLeagueType (segment :: segments) = .h2h ↔
      ∃ suffix ∈ segments.head?, suffix ∈ headToHeadSuffixes := by
  unfold inferLeagueType
  rw [List.dropWhile_cons_of_neg (by simp [h])]
  cases segments with
  | nil => simp
  | cons suffix after => simp [headToHeadSuffixes, or_iff_not_imp_left]

/-- The type is head-to-head if the first standings are. -/
theorem inferLeagueType_eq_h2h_iff (segments : List String) :
    inferLeagueType segments = .h2h ↔ ∃ before standings suffix after,
      segments = before ++ standings :: suffix :: after ∧
        (∀ segment ∈ before, isTypeSurface segment = false) ∧ isTypeSurface standings = true ∧
        suffix ∈ headToHeadSuffixes := by
  induction segments with
  | nil => simp [inferLeagueType]
  | cons segment rest ih =>
    by_cases hsegment : isTypeSurface segment = true
    · rw [inferLeagueType_surface hsegment]
      constructor
      · rintro ⟨suffix, hsuffix, hmem⟩
        obtain ⟨after, rfl⟩ := List.head?_eq_some_iff.mp hsuffix
        exact ⟨[], segment, suffix, after, rfl, by simp, hsegment, hmem⟩
      · rintro ⟨before, standings, suffix, after, heq, hbefore, -, hmem⟩
        cases before with
        | nil =>
          obtain ⟨-, rfl⟩ := List.cons.inj heq
          exact ⟨suffix, rfl, hmem⟩
        | cons first before =>
          obtain ⟨rfl, -⟩ := List.cons.inj heq
          rw [hbefore segment List.mem_cons_self] at hsegment
          exact absurd hsegment Bool.false_ne_true
    · rw [Bool.not_eq_true] at hsegment
      rw [inferLeagueType_cons hsegment, ih]
      constructor
      · rintro ⟨before, standings, suffix, after, rfl, hbefore, hrest⟩
        exact ⟨segment :: before, standings, suffix, after, rfl,
          List.forall_mem_cons.mpr ⟨hsegment, hbefore⟩, hrest⟩
      · rintro ⟨before, standings, suffix, after, heq, hbefore, hstandings, hmem⟩
        cases before with
        | nil =>
          obtain ⟨rfl, -⟩ := List.cons.inj heq
          rw [hsegment] at hstandings
          exact absurd hstandings Bool.false_ne_true
        | cons first before =>
          obtain ⟨rfl, rfl⟩ := List.cons.inj heq
          exact ⟨before, standings, suffix, after, rfl, (List.forall_mem_cons.mp hbefore).2,
            hstandings, hmem⟩

/-- A segment that is read as a number has no page suffix. -/
theorem isTypeSurface_of_number {id : String} {number : ℚ} (h : numberOfText id = some number) :
    isTypeSurface id = false := by
  rw [Bool.eq_false_iff]
  intro hsurface
  simp only [isTypeSurface, Bool.or_eq_true, decide_eq_true_eq] at hsurface
  have hnone : numberOfText "standings" = none ∧ numberOfText "new-entries" = none := by
    decide +kernel
  rcases hsurface with rfl | rfl
  · exact Option.some_ne_none number (h.symm.trans hnone.1)
  · exact Option.some_ne_none number (h.symm.trans hnone.2)

/-- Suffixes in small letters are suffixes in any letters. -/
theorem toLower_mem_of_mem {suffix : String} (h : suffix ∈ headToHeadSuffixes) :
    suffix.toLower ∈ headToHeadSuffixes := by
  simp only [headToHeadSuffixes, List.mem_cons, List.not_mem_nil, or_false] at h ⊢
  rcases h with rfl | rfl <;> decide +kernel

/-- The inferred type is that of the page exactly when suffixes are spelled plainly. -/
theorem inferLeagueType_agrees_iff {page : LeaguePage} {number : ℚ}
    (hnumber : numberOfText page.id = some number) :
    (inferLeagueType ("leagues" :: page.id :: page.surface :: page.behind) = .h2h ↔
        ∃ suffix ∈ standingsSuffix page.surface page.behind,
          suffix.toLower ∈ headToHeadSuffixes) ↔
      (isTypeSurface page.surface = true → ∀ suffix ∈ page.behind.head?,
          suffix.toLower ∈ headToHeadSuffixes → suffix ∈ headToHeadSuffixes) ∧
        (isTypeSurface page.surface = false → ∀ before standings suffix after,
          page.behind = before ++ standings :: suffix :: after →
          (∀ segment ∈ before, isTypeSurface segment = false) → isTypeSurface standings = true →
          suffix ∉ headToHeadSuffixes) := by
  rw [inferLeagueType_cons (by decide), inferLeagueType_cons (isTypeSurface_of_number hnumber)]
  by_cases hsurface : isTypeSurface page.surface = true
  · rw [inferLeagueType_surface hsurface, standingsSuffix, if_pos hsurface]
    simp only [hsurface, forall_true_left, Bool.true_eq_false, false_implies, and_true]
    constructor
    · intro hiff suffix hsuffix hlower
      obtain ⟨other, hother, hmem⟩ := hiff.mpr ⟨suffix, hsuffix, hlower⟩
      obtain rfl : other = suffix := Option.mem_unique hother hsuffix
      exact hmem
    · intro hplain
      exact ⟨fun ⟨suffix, hsuffix, hmem⟩ => ⟨suffix, hsuffix, toLower_mem_of_mem hmem⟩,
        fun ⟨suffix, hsuffix, hlower⟩ => ⟨suffix, hsuffix, hplain suffix hsuffix hlower⟩⟩
  · rw [Bool.not_eq_true] at hsurface
    rw [inferLeagueType_cons hsurface, inferLeagueType_eq_h2h_iff, standingsSuffix, hsurface]
    simp only [Bool.false_eq_true, if_false, Option.not_mem_none, false_and, exists_false,
      iff_false, false_implies, forall_true_left, true_and]
    constructor
    · intro hnone before standings suffix after heq hbefore hstandings hmem
      exact hnone ⟨before, standings, suffix, after, heq, hbefore, hstandings, hmem⟩
    · rintro hplain ⟨before, standings, suffix, after, heq, hbefore, hstandings, hmem⟩
      exact hplain before standings suffix after heq hbefore hstandings hmem

/-! ### Spellings -/

/-- The segments that are not empty, of texts that are separated by slashes. -/
def slashSegments (chars : List Char) : List (List Char) := (chars.splitOn '/').filter (· ≠ [])

/-- Segments are counted on either side of a slash. -/
theorem slashSegments_append (left right : List Char) :
    slashSegments (left ++ '/' :: right) = slashSegments left ++ slashSegments right := by
  rw [slashSegments, List.splitOn_append_cons_self, List.filter_append]
  rfl

/-- Behind a text, the segments of a path are those of its own segments. -/
theorem slashSegments_append_path (chars : List Char) (path : List String) :
    slashSegments (chars ++ path.flatMap fun segment => '/' :: segment.toList) =
      slashSegments chars ++ path.flatMap fun segment => slashSegments segment.toList := by
  induction path generalizing chars with
  | nil => simp
  | cons segment path ih =>
    rw [List.flatMap_cons, List.cons_append, slashSegments_append, ih, List.flatMap_cons]

/-- The segments of a URL are those of its named segments. -/
theorem pathSegments_eq (url : Url) :
    pathSegments url = ((namedSegments url.parts.path).flatMap fun segment =>
      slashSegments segment.toList).map String.ofList := by
  have hpath := slashSegments_append_path [] url.parts.path
  have hempty : slashSegments [] = [] := rfl
  rw [List.nil_append, ← toList_pathname, hempty, List.nil_append] at hpath
  have hnamed : ∀ path : List String, (namedSegments path).flatMap (fun segment =>
      slashSegments segment.toList) = path.flatMap fun segment => slashSegments segment.toList := by
    intro path
    induction path with
    | nil => rfl
    | cons segment path ih =>
      by_cases hsegment : segment = ""
      · subst hsegment
        exact ih
      · have hcons : namedSegments (segment :: path) = segment :: namedSegments path :=
          List.filter_cons_of_pos (by simpa using hsegment)
        rw [hcons, List.flatMap_cons, List.flatMap_cons, ih]
  rw [hnamed, ← hpath]
  rfl

/-- The league does not depend on whitespace around the URL, slashes behind its path, its query and
its fragment. -/
theorem parseLeagueUrl_spells {host : UrlHost}
    {core pre rest post tail pre' rest' post' tail' : List Char} {slashes slashes' : ℕ}
    {text text' : String} (hspells : Spells core text pre rest post tail slashes)
    (hspells' : Spells core text' pre' rest' post' tail' slashes') {leagueId : ℕ}
    {leagueType : LeagueType} (h : parseLeagueUrl host text = .ok (leagueId, leagueType)) :
    parseLeagueUrl host text' = .ok (leagueId, leagueType) ∧
      leaguePage host text' = leaguePage host text := by
  obtain ⟨url, hurl, h⟩ := orThrow_bind_eq_ok.mp h
  rw [throwIf_bind_eq_ok] at h
  obtain ⟨hhost, h⟩ := h
  have hscheme : url.scheme = "https" := not_not.mp (not_or.mp hhost).1
  obtain ⟨url', hurl', hscheme', hsame⟩ := parseUrl_spells hspells hspells' hurl hscheme
  have hsegments : pathSegments url' = pathSegments url := by
    rw [pathSegments_eq, pathSegments_eq, hsame.path]
  have hauthority := hsame.authority
  refine ⟨orThrow_bind_eq_ok.mpr ⟨url', hurl', throwIf_bind_eq_ok.mpr ⟨?_, ?_⟩⟩, ?_⟩
  · rw [hscheme] at hhost
    rwa [hscheme', ← hauthority]
  · rw [hsegments]
    exact h
  · rw [leaguePage, leaguePage, hurl, hurl', Option.bind_some, Option.bind_some, hsegments]

/-- An accepted league is the one its page names, and of the type of that page, exactly when the
page is spelled plainly, whichever spelling of the URL is given. -/
theorem parseLeagueUrl_agrees_iff {host : UrlHost} {rawUrl : String} {leagueId : ℕ}
    {leagueType : LeagueType} (h : parseLeagueUrl host rawUrl = .ok (leagueId, leagueType)) :
    ∃ page, leaguePage host rawUrl = some page ∧
      (page.Agrees leagueId leagueType ↔ page.PlainlySpelled) ∧
      ∀ core pre rest post tail slashes pre' rest' post' tail' slashes' text,
        Spells core rawUrl pre rest post tail slashes →
        Spells core text pre' rest' post' tail' slashes' →
        parseLeagueUrl host text = .ok (leagueId, leagueType) ∧
          leaguePage host text = some page := by
  obtain ⟨page, number, hpage, hnumber, hsafe, hpos, hid, htype⟩ := parseLeagueUrl_of_ok h
  refine ⟨page, hpage, ?_, ?_⟩
  · rw [LeaguePage.Agrees, LeaguePage.PlainlySpelled, hid, htype,
      decimalSegment_eq_iff hnumber hsafe hpos, inferLeagueType_agrees_iff hnumber]
  · intro core pre rest post tail slashes pre' rest' post' tail' slashes' text hspells hspells'
    obtain ⟨hok, hsame⟩ := parseLeagueUrl_spells hspells hspells' h
    exact ⟨hok, hsame.trans hpage⟩

/-- Hosts of ASCII letters, which are compared in lower case. -/
def lowerCaseHost : UrlHost where
  parseHost := fun text =>
    if text.toList.all fun c => c.isAlphanum || c = '.' || c = '-' then some text.toLower else none
  parseOther := fun _ _ => none

/-- A head-to-head page is read as one. -/
theorem parseLeagueUrl_agrees_iff_headToHead :
    parseLeagueUrl lowerCaseHost "https://fantasy.premierleague.com/en/leagues/77/standings/h" =
        .ok (77, .h2h) ∧
      ∃ page, leaguePage lowerCaseHost
          "https://fantasy.premierleague.com/en/leagues/77/standings/h" = some page ∧
        (page.Agrees 77 .h2h ↔ page.PlainlySpelled) ∧
        ∀ core pre rest post tail slashes pre' rest' post' tail' slashes' text,
          Spells core "https://fantasy.premierleague.com/en/leagues/77/standings/h" pre rest post
            tail slashes → Spells core text pre' rest' post' tail' slashes' →
          parseLeagueUrl lowerCaseHost text = .ok (77, .h2h) ∧
            leaguePage lowerCaseHost text = some page := by
  have hok : parseLeagueUrl lowerCaseHost
      "https://fantasy.premierleague.com/en/leagues/77/standings/h" = .ok (77, .h2h) := by
    decide +kernel
  exact ⟨hok, parseLeagueUrl_agrees_iff hok⟩

/-- A capital letter in the suffix of a head-to-head page makes the league a classic one. -/
theorem capital_suffix_classic :
    parseLeagueUrl lowerCaseHost "https://fantasy.premierleague.com/leagues/123/standings/H" =
        .ok (123, .classic) ∧
      leaguePage lowerCaseHost "https://fantasy.premierleague.com/leagues/123/standings/H" =
        some ⟨"123", "standings", ["H"]⟩ ∧
      ¬ LeaguePage.Agrees ⟨"123", "standings", ["H"]⟩ 123 .classic := by
  refine ⟨by decide +kernel, by decide +kernel, fun hagrees => ?_⟩
  have hclassic : LeagueType.classic = .h2h := hagrees.2.mpr ⟨"H", rfl, by decide +kernel⟩
  exact absurd hclassic (by decide)

end LetletmeData
