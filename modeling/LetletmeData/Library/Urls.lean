import Mathlib.Data.List.TakeWhile
import Mathlib.Data.Nat.Notation
import LetletmeData.Library.JavaScript

/-!
# URLs

`new URL` of a text without a base, for the schemes `http` and `https`. What a host text stands for,
and what follows another scheme, is read by functions of the host.
-/

namespace LetletmeData.Library

/-- The authority of a URL. -/
structure UrlAuthority where
  username : String
  password : String
  hostname : String
  port : Option ℕ
  deriving DecidableEq

/-- What follows the scheme of a URL. -/
structure UrlParts extends UrlAuthority where
  path : List String
  query : Option String
  fragment : Option String
  deriving DecidableEq

/-- A parsed URL. -/
structure Url where
  scheme : String
  parts : UrlParts
  deriving DecidableEq

/-- What the parser takes from its host: the host that a text stands for, and the parts of a URL of
a scheme other than `http` and `https`. -/
structure UrlHost where
  parseHost : String → Option String
  parseOther : String → List Char → Option UrlParts

/-! ### Percent encoding -/

/-- A hexadecimal digit. -/
def upperHexDigit (digit : ℕ) : Char :=
  if digit < 10 then Char.ofNat (48 + digit) else Char.ofNat (55 + digit)

/-- A byte in percent encoding. -/
def percentByte (byte : UInt8) : List Char :=
  ['%', upperHexDigit (byte.toNat / 16), upperHexDigit (byte.toNat % 16)]

/-- The UTF-8 bytes of a character in percent encoding, if it is in the set. -/
def percentEncode (inSet : Char → Bool) (c : Char) : List Char :=
  if inSet c then (String.utf8EncodeChar c).flatMap percentByte else [c]

/-- The C0 control percent-encode set. -/
def inControlSet (c : Char) : Bool := c.toNat < 0x20 || 0x7E < c.toNat

/-- The fragment percent-encode set. -/
def inFragmentSet (c : Char) : Bool := inControlSet c || " \"<>`".toList.contains c

/-- The special-query percent-encode set. -/
def inQuerySet (c : Char) : Bool := inControlSet c || " \"#<>'".toList.contains c

/-- The path percent-encode set. -/
def inPathSet (c : Char) : Bool := inControlSet c || " \"#<>?^`\x7b\x7d".toList.contains c

/-- The userinfo percent-encode set. -/
def inUserinfoSet (c : Char) : Bool := inPathSet c || "/:;=@[\\]|".toList.contains c

/-- A part in percent encoding. -/
def percentEncoded (inSet : Char → Bool) (chars : List Char) : String :=
  String.ofList (chars.flatMap (percentEncode inSet))

/-! ### Parsing -/

/-- Controls and spaces around an input are removed. -/
def isC0OrSpace (c : Char) : Bool := c.toNat ≤ 0x20

/-- Tabs and line ends are removed everywhere. -/
def isTabOrNewline (c : Char) : Bool := c = '\t' || c = '\n' || c = '\r'

/-- The characters that are parsed. -/
def cleanInput (text : String) : List Char :=
  ((((text.toList.dropWhile isC0OrSpace).reverse).dropWhile isC0OrSpace).reverse).filter
    fun c => !isTabOrNewline c

/-- Characters of a scheme. -/
def isSchemeChar (c : Char) : Bool := c.isAlphanum || c = '+' || c = '-' || c = '.'

/-- The scheme of a URL in lower case, and what follows its colon. -/
def readScheme (chars : List Char) : Option (String × List Char) :=
  match chars.head?, chars.dropWhile isSchemeChar with
  | some first, ':' :: rest =>
    if first.isAlpha then
      some (String.ofList ((chars.takeWhile isSchemeChar).map Char.toLower), rest)
    else none
  | _, _ => none

/-- Either slash. -/
def isSlash (c : Char) : Bool := c = '/' || c = '\\'

/-- What ends an authority. -/
def endsAuthority (c : Char) : Bool := isSlash c || c = '?' || c = '#'

/-- What ends a path. -/
def endsPath (c : Char) : Bool := c = '?' || c = '#'

/-- Credentials before the last `@`, and what follows. -/
def splitCredentials (authority : List Char) : List Char × List Char :=
  if '@' ∈ authority then
    ((authority.reverse.dropWhile (· ≠ '@')).tail.reverse,
      (authority.reverse.takeWhile (· ≠ '@')).reverse)
  else ([], authority)

/-- A host up to its first colon outside brackets, and the port behind the colon. -/
def splitPort : Bool → List Char → List Char × Option (List Char)
  | _, [] => ([], none)
  | insideBrackets, c :: rest =>
    if c = ':' ∧ insideBrackets = false then ([], some rest)
    else
      let inside := if c = '[' then true else if c = ']' then false else insideBrackets
      let (host, port) := splitPort inside rest
      (c :: host, port)

/-- A port, where the default one counts as none. -/
def readPort (defaultPort : ℕ) : Option (List Char) → Option (Option ℕ)
  | none | some [] => some none
  | some digits =>
    if digits.all Char.isDigit = true ∧ decimalValue digits ≤ 65535 then
      some (if decimalValue digits = defaultPort then none else some (decimalValue digits))
    else none

/-- A segment that stands for itself. -/
def isSingleDot (segment : List Char) : Bool :=
  segment.map Char.toLower = ".".toList || segment.map Char.toLower = "%2e".toList

/-- A segment that removes the one before it. -/
def isDoubleDot (segment : List Char) : Bool :=
  ["..", ".%2e", "%2e.", "%2e%2e"].any fun dots => segment.map Char.toLower = dots.toList

/-- The path after a segment that a slash follows or that ends the path. -/
def endSegment (slash : Bool) (path : List String) (segment : List Char) : List String :=
  if isDoubleDot segment then path.dropLast ++ if slash then [] else [""]
  else if isSingleDot segment then path ++ if slash then [] else [""]
  else path ++ [String.ofList segment]

/-- The path state: the segments before, and the one that is being read. -/
def parsePath : List String → List Char → List Char → List String
  | path, segment, [] => endSegment false path segment
  | path, segment, c :: rest =>
    if isSlash c then parsePath (endSegment true path segment) [] rest
    else parsePath path (segment ++ percentEncode inPathSet c) rest

/-- The path behind an authority; its first slash begins the first segment. -/
def readPath : List Char → List String
  | [] => parsePath [] [] []
  | c :: rest => if isSlash c then parsePath [] [] rest else parsePath [] [] (c :: rest)

/-- The authority of an `http` or `https` URL. -/
def parseAuthority (host : UrlHost) (defaultPort : ℕ) (authority : List Char) :
    Option UrlAuthority := do
  let (credentials, hostAndPort) := splitCredentials authority
  let (hostText, portText) := splitPort false hostAndPort
  if hostText = [] then none
  else
    let hostname ← host.parseHost (String.ofList hostText)
    let port ← readPort defaultPort portText
    return {
      username := percentEncoded inUserinfoSet (credentials.takeWhile (· ≠ ':'))
      password := percentEncoded inUserinfoSet (credentials.dropWhile (· ≠ ':')).tail
      hostname := hostname
      port := port }

/-- What follows the authority of an `http` or `https` URL. -/
def parseTail (authority : UrlAuthority) (rest : List Char) : UrlParts :=
  let afterPath := rest.dropWhile fun c => !endsPath c
  let queryText := afterPath.takeWhile (· ≠ '#')
  let fragmentText := afterPath.dropWhile (· ≠ '#')
  { authority with
    path := readPath (rest.takeWhile fun c => !endsPath c)
    query := queryText.head?.map fun _ => percentEncoded inQuerySet queryText.tail
    fragment := fragmentText.head?.map fun _ => percentEncoded inFragmentSet fragmentText.tail }

/-- The parts of an `http` or `https` URL. -/
def parseSpecial (host : UrlHost) (defaultPort : ℕ) (chars : List Char) : Option UrlParts :=
  let chars := chars.dropWhile isSlash
  (parseAuthority host defaultPort (chars.takeWhile fun c => !endsAuthority c)).map fun authority =>
    parseTail authority (chars.dropWhile fun c => !endsAuthority c)

/-- What follows the colon of a scheme. -/
def parseParts (host : UrlHost) (scheme : String) (rest : List Char) : Option UrlParts :=
  if scheme = "https" then parseSpecial host 443 rest
  else if scheme = "http" then parseSpecial host 80 rest
  else host.parseOther scheme rest

/-- `new URL(text)`. -/
def parseUrl (host : UrlHost) (text : String) : Option Url :=
  (readScheme (cleanInput text)).bind fun (scheme, rest) =>
    (parseParts host scheme rest).map fun parts => ⟨scheme, parts⟩

/-- The getter `pathname`. -/
def Url.pathname (url : Url) : String :=
  String.join (url.parts.path.map fun segment => "/" ++ segment)

/-! ### Spellings of one URL -/

/-- A scan stops in front of what does not belong to it. -/
theorem scan_append {belongs : Char → Bool} {rest : List Char}
    (hrest : ∀ c ∈ rest.head?, belongs c = false) (chars : List Char) :
    (chars ++ rest).takeWhile belongs = chars.takeWhile belongs ∧
      (chars ++ rest).dropWhile belongs = chars.dropWhile belongs ++ rest := by
  have hstop : rest.takeWhile belongs = [] ∧ rest.dropWhile belongs = rest := by
    cases rest with
    | nil => exact ⟨rfl, rfl⟩
    | cons c rest =>
      have hc := hrest c rfl
      exact ⟨List.takeWhile_cons_of_neg (by simp [hc]), List.dropWhile_cons_of_neg (by simp [hc])⟩
  induction chars with
  | nil => exact hstop
  | cons c chars ih => by_cases hc : belongs c = true <;> simp [hc, ih.1, ih.2]

/-- A text that nothing is trimmed of. -/
structure IsCore (chars : List Char) : Prop where
  first : ∀ c ∈ chars.head?, isC0OrSpace c = false
  last : ∀ c ∈ chars.getLast?, isC0OrSpace c = false

/-- A core is left when controls and spaces around it are removed. -/
theorem cleanInput_surrounded {pre core post : List Char} (hcore : IsCore core)
    (hpre : ∀ c ∈ pre, isC0OrSpace c = true) (hpost : ∀ c ∈ post, isC0OrSpace c = true) :
    cleanInput (String.ofList (pre ++ core ++ post)) =
      core.filter fun c => !isTabOrNewline c := by
  have hkeep : ∀ chars : List Char, (∀ c ∈ chars.head?, isC0OrSpace c = false) →
      chars.dropWhile isC0OrSpace = chars := fun chars hfirst => by
    simpa using (scan_append hfirst []).2
  unfold cleanInput
  rw [String.toList_ofList]
  congr 1
  rw [List.append_assoc, List.dropWhile_append_of_pos hpre]
  cases core with
  | nil =>
    rw [List.nil_append, List.dropWhile_eq_nil_iff.mpr hpost]
    rfl
  | cons c core =>
    rw [hkeep (c :: core ++ post) hcore.first, List.reverse_append, List.dropWhile_append_of_pos
      fun c hc => hpost c (List.mem_reverse.mp hc), hkeep, List.reverse_reverse]
    rw [List.head?_reverse]
    exact hcore.last

/-- A segment of a path that is not empty. -/
def namedSegments (path : List String) : List String := path.filter (· ≠ "")

/-- Whether a slash follows a segment leaves no trace but an empty segment. -/
theorem namedSegments_endSegment (path : List String) (segment : List Char) :
    namedSegments (endSegment true path segment) =
      namedSegments (endSegment false path segment) := by
  unfold endSegment namedSegments
  split_ifs <;> simp

/-- A slash ends the segment that is being read. -/
theorem parsePath_slash (path : List String) (segment rest : List Char) :
    parsePath path segment ('/' :: rest) = parsePath (endSegment true path segment) [] rest := rfl

/-- Slashes at the end of a path add empty segments only. -/
theorem namedSegments_slashes (path : List String) (slashes : ℕ) :
    namedSegments (parsePath path [] (List.replicate slashes '/')) = namedSegments path := by
  have hempty : ∀ slash path, namedSegments (endSegment slash path []) = namedSegments path := by
    intro slash path
    cases slash <;> simp [endSegment, namedSegments, isDoubleDot, isSingleDot]
  induction slashes generalizing path with
  | zero => exact hempty false path
  | succ slashes ih => rw [List.replicate_succ, parsePath_slash, ih, hempty]

/-- Slashes at the end of a path do not change its named segments. -/
theorem namedSegments_parsePath (path : List String) (segment chars : List Char) (slashes : ℕ) :
    namedSegments (parsePath path segment (chars ++ List.replicate slashes '/')) =
      namedSegments (parsePath path segment chars) := by
  induction chars generalizing path segment with
  | nil =>
    cases slashes with
    | zero => rfl
    | succ slashes =>
      rw [List.nil_append, List.replicate_succ, parsePath_slash, namedSegments_slashes,
        namedSegments_endSegment, parsePath]
  | cons c chars ih =>
    rw [List.cons_append, parsePath, parsePath]
    split
    · exact ih _ _
    · exact ih _ _

/-- Slashes at the end of what follows an authority do not change the named segments. -/
theorem namedSegments_readPath {chars : List Char} (hchars : ∀ c ∈ chars.head?, isSlash c = true)
    (slashes : ℕ) : namedSegments (readPath (chars ++ List.replicate slashes '/')) =
      namedSegments (readPath chars) := by
  cases chars with
  | nil =>
    cases slashes with
    | zero => rfl
    | succ slashes => exact namedSegments_slashes [] slashes
  | cons c chars =>
    have hc := hchars c rfl
    rw [List.cons_append, readPath, readPath, if_pos hc, if_pos hc]
    exact namedSegments_parsePath [] [] chars slashes

/-- Two URLs of one page: they differ in empty segments, query and fragment at most. -/
structure SamePage (left right : UrlParts) : Prop where
  authority : left.toUrlAuthority = right.toUrlAuthority
  path : namedSegments left.path = namedSegments right.path

/-- What may follow a URL without leaving its page: slashes, and then a query or a fragment. -/
structure StaysOnPage (slashes : ℕ) (tail rest : List Char) : Prop where
  eq : rest = List.replicate slashes '/' ++ tail
  tail : ∀ c ∈ tail.head?, endsPath c = true

/-- What stays on a page begins with none of the characters in front of it. -/
theorem StaysOnPage.head {slashes : ℕ} {tail rest : List Char} (h : StaysOnPage slashes tail rest) :
    ∀ c ∈ rest.head?, c = '/' ∨ endsPath c = true := by
  rw [h.eq]
  cases slashes with
  | zero => exact fun c hc => .inr (h.tail c hc)
  | succ slashes => exact fun c hc => .inl (Option.some.inj hc).symm

/-- Nothing but slashes and a tail name no host. -/
theorem parseSpecial_of_slashes (host : UrlHost) (defaultPort : ℕ) {chars : List Char}
    (h : ∀ c ∈ (chars.dropWhile isSlash).head?, endsPath c = true) :
    parseSpecial host defaultPort chars = none := by
  have hnone : (chars.dropWhile isSlash).takeWhile (fun c => !endsAuthority c) = [] := by
    cases hchars : chars.dropWhile isSlash with
    | nil => rfl
    | cons c rest =>
      have hc : endsPath c = true := h c (by rw [hchars, List.head?_cons]; rfl)
      have hends : endsAuthority c = true := by
        simp only [endsPath, endsAuthority, Bool.or_eq_true] at hc ⊢
        exact hc.elim (fun h => .inl (.inr h)) .inr
      exact List.takeWhile_cons_of_neg (by simp [hends])
  rw [parseSpecial, hnone]
  rfl

/-- The page is that of the URL in front of what stays on it. -/
theorem parseSpecial_samePage (host : UrlHost) (defaultPort : ℕ) {chars rest tail : List Char}
    {slashes : ℕ} (hchars : ∀ c ∈ chars, endsPath c = false)
    (hrest : StaysOnPage slashes tail rest) :
    Option.Rel SamePage (parseSpecial host defaultPort (chars ++ rest))
      (parseSpecial host defaultPort chars) := by
  by_cases hslashes : chars.dropWhile isSlash = []
  · have hdrop : (chars ++ rest).dropWhile isSlash = tail := by
      rw [List.dropWhile_append_of_pos (List.dropWhile_eq_nil_iff.mp hslashes), hrest.eq,
        List.dropWhile_append_of_pos fun c hc => by rw [List.eq_of_mem_replicate hc]; rfl]
      cases htail : tail with
      | nil => rfl
      | cons c tail =>
        have hc := hrest.tail c (by rw [htail]; rfl)
        refine List.dropWhile_cons_of_neg fun hslash => ?_
        simp only [endsPath, isSlash, Bool.or_eq_true, decide_eq_true_eq] at hc hslash
        rcases hc with rfl | rfl <;> revert hslash <;> decide
    rw [parseSpecial_of_slashes host defaultPort (by rw [hdrop]; exact hrest.tail),
      parseSpecial_of_slashes host defaultPort (by simp [hslashes])]
    exact .none
  · have hdrop : (chars ++ rest).dropWhile isSlash = chars.dropWhile isSlash ++ rest := by
      rw [List.dropWhile_append, if_neg (by simpa using hslashes)]
    have hends : ∀ c ∈ rest.head?, (!endsAuthority c) = false := by
      intro c hc
      rcases hrest.head c hc with rfl | hc
      · rfl
      · simp only [endsPath, endsAuthority, Bool.or_eq_true, Bool.not_eq_false'] at hc ⊢
        exact hc.elim (fun h => .inl (.inr h)) .inr
    set behind := (chars.dropWhile isSlash).dropWhile fun c => !endsAuthority c with hbehind
    have hplain : ∀ c ∈ behind, endsPath c = false := fun c hc =>
      hchars c ((List.dropWhile_suffix _).subset ((List.dropWhile_suffix _).subset hc))
    have hhead : ∀ c ∈ behind.head?, isSlash c = true := by
      intro c hc
      have hnot := List.head?_dropWhile_not (fun c => !endsAuthority c) (chars.dropWhile isSlash)
      have hc' := hplain c (List.mem_of_mem_head? hc)
      rw [← hbehind, Option.mem_def.mp hc] at hnot
      simp only [Bool.not_eq_false', endsAuthority, Bool.or_eq_true, endsPath,
        Bool.or_eq_false_iff] at hnot hc'
      rcases hnot with (hnot | hnot) | hnot
      · exact hnot
      · rw [hc'.1] at hnot; exact absurd hnot Bool.false_ne_true
      · rw [hc'.2] at hnot; exact absurd hnot Bool.false_ne_true
    have hpath : (behind ++ rest).takeWhile (fun c => !endsPath c) =
        behind ++ List.replicate slashes '/' := by
      have hall : ∀ c ∈ behind ++ List.replicate slashes '/', (!endsPath c) = true := by
        intro c hc
        rcases List.mem_append.mp hc with hc | hc
        · rw [hplain c hc]; rfl
        · rw [List.eq_of_mem_replicate hc]; rfl
      rw [hrest.eq, ← List.append_assoc, (scan_append (by simpa using hrest.tail) _).1,
        List.takeWhile_eq_self_iff.mpr hall]
    have hself : behind.takeWhile (fun c => !endsPath c) = behind :=
      List.takeWhile_eq_self_iff.mpr fun c hc => by rw [hplain c hc]; rfl
    simp only [parseSpecial, hdrop, (scan_append hends _).1, (scan_append hends _).2, ← hbehind]
    cases parseAuthority host defaultPort
        ((chars.dropWhile isSlash).takeWhile fun c => !endsAuthority c) with
    | none => exact .none
    | some authority =>
      refine .some ⟨rfl, ?_⟩
      show namedSegments (readPath _) = namedSegments (readPath _)
      rw [hpath, hself, namedSegments_readPath hhead]

/-- A scheme is read up to its colon, whatever stays on the page behind. -/
theorem readScheme_append {chars rest tail : List Char} {slashes : ℕ}
    (hrest : StaysOnPage slashes tail rest) :
    readScheme (chars ++ rest) = (readScheme chars).map fun scheme =>
      (scheme.1, scheme.2 ++ rest) := by
  have hends : ∀ c ∈ rest.head?, isSchemeChar c = false ∧ c ≠ ':' := by
    intro c hc
    rcases hrest.head c hc with rfl | hc
    · decide
    · simp only [endsPath, Bool.or_eq_true, decide_eq_true_eq] at hc
      rcases hc with rfl | rfl <;> decide
  have hscan := scan_append (fun c hc => (hends c hc).1) chars
  unfold readScheme
  rw [hscan.1, hscan.2]
  cases chars with
  | nil =>
    cases rest with
    | nil => rfl
    | cons c rest =>
      have hc := (hends c rfl).2
      simp [hc]
  | cons first chars =>
    cases hdrop : (first :: chars).dropWhile isSchemeChar with
    | nil =>
      cases rest with
      | nil => rfl
      | cons c rest =>
        have hc := (hends c rfl).2
        simp [hc]
    | cons c behind =>
      by_cases hc : c = ':'
      · subst hc
        by_cases hfirst : first.isAlpha = true <;> simp [hfirst]
      · simp [hc]
/-- A text that spells a URL: controls and spaces around it, and behind it slashes, a query and a
fragment. Controls and spaces at the end count as around it. -/
structure Spells (core : List Char) (text : String) (pre rest post tail : List Char)
    (slashes : ℕ) : Prop where
  eq : text = String.ofList (pre ++ (core ++ rest) ++ post)
  pre : ∀ c ∈ pre, isC0OrSpace c = true
  post : ∀ c ∈ post, isC0OrSpace c = true
  whole : IsCore (core ++ rest)
  rest : StaysOnPage slashes tail rest
  plain : ∀ c ∈ core, endsPath c = false

/-- What is parsed of a spelling begins with the URL and stays on its page. -/
theorem Spells.cleanInput_eq {core pre rest post tail : List Char} {slashes : ℕ} {text : String}
    (h : Spells core text pre rest post tail slashes) :
    ∃ behind tail, cleanInput text = (core.filter fun c => !isTabOrNewline c) ++ behind ∧
      StaysOnPage slashes tail behind := by
  refine ⟨rest.filter fun c => !isTabOrNewline c, tail.filter fun c => !isTabOrNewline c, ?_, ?_,
    ?_⟩
  · rw [h.eq, cleanInput_surrounded h.whole h.pre h.post, List.filter_append]
  · rw [h.rest.eq, List.filter_append, List.filter_replicate_of_pos (by decide)]
  · cases htail : tail with
    | nil => simp
    | cons c tail =>
      have hc := h.rest.tail c (by rw [htail]; rfl)
      have hkept : isTabOrNewline c = false := by
        simp only [endsPath, Bool.or_eq_true, decide_eq_true_eq] at hc
        rcases hc with rfl | rfl <;> decide
      simpa [hkept] using hc

/-- URLs of one page have the pages of each other. -/
theorem SamePage.symm {left right : UrlParts} (h : SamePage left right) : SamePage right left :=
  ⟨h.authority.symm, h.path.symm⟩

/-- URLs of the page of a third one are of one page. -/
theorem SamePage.trans {left middle right : UrlParts} (h : SamePage left middle)
    (h' : SamePage middle right) : SamePage left right :=
  ⟨h.authority.trans h'.authority, h.path.trans h'.path⟩

/-- Two spellings of one URL are of one page. -/
theorem parseUrl_spells {host : UrlHost}
    {core pre rest post tail pre' rest' post' tail' : List Char} {slashes slashes' : ℕ} {text text' : String} (h : Spells core text pre rest post tail slashes)
    (h' : Spells core text' pre' rest' post' tail' slashes') {url : Url}
    (hurl : parseUrl host text = some url) (hscheme : url.scheme = "https") :
    ∃ url', parseUrl host text' = some url' ∧ url'.scheme = "https" ∧
      SamePage url.parts url'.parts := by
  obtain ⟨behind, stays, hclean, hbehind⟩ := h.cleanInput_eq
  obtain ⟨behind', stays', hclean', hbehind'⟩ := h'.cleanInput_eq
  have hplain : ∀ c ∈ core.filter fun c => !isTabOrNewline c, endsPath c = false :=
    fun c hc => h.plain c (List.mem_filter.mp hc).1
  generalize (core.filter fun c => !isTabOrNewline c) = chars at hclean hclean' hplain
  rw [parseUrl, hclean, readScheme_append hbehind] at hurl
  rw [parseUrl, hclean', readScheme_append hbehind']
  cases hread : readScheme chars with
  | none => simp [hread] at hurl
  | some read =>
    obtain ⟨scheme, remaining⟩ := read
    have hremaining : ∀ c ∈ remaining, endsPath c = false := by
      refine fun c hc => hplain c ?_
      unfold readScheme at hread
      split at hread
      next first behind hfirst hdrop =>
        split at hread
        · obtain ⟨-, rfl⟩ := Prod.mk.inj (Option.some.inj hread)
          exact (List.dropWhile_suffix _).subset (hdrop ▸ List.mem_cons_of_mem _ hc)
        · exact absurd hread.symm (Option.some_ne_none _)
      next => exact absurd hread.symm (Option.some_ne_none _)
    simp only [hread, Option.map_some, Option.bind_some] at hurl ⊢
    obtain ⟨parts, hparts, rfl⟩ := Option.map_eq_some_iff.mp hurl
    obtain rfl : scheme = "https" := hscheme
    rw [parseParts, if_pos rfl] at hparts ⊢
    have hleft := parseSpecial_samePage host 443 hremaining hbehind
    have hright := parseSpecial_samePage host 443 hremaining hbehind'
    rw [hparts] at hleft
    generalize parseSpecial host 443 remaining = middle at hleft hright
    cases hleft with
    | some hleft =>
      generalize parseSpecial host 443 (remaining ++ behind') = other at hright ⊢
      cases hright with
      | some hright => exact ⟨_, rfl, rfl, hleft.trans hright.symm⟩

/-- Every segment of a path stands behind a slash. -/
theorem toList_pathname (url : Url) :
    url.pathname.toList = url.parts.path.flatMap fun segment => '/' :: segment.toList := by
  rw [Url.pathname]
  induction url.parts.path with
  | nil => rfl
  | cons segment path ih => simp [String.join_cons, ih]

end LetletmeData.Library
