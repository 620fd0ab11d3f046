import LetletmeData.Library.Texts
import LetletmeData.Library.Urls

/-!
# Texts of URLs

A URL is written as a text, its `href`. What the parser has read is written as a text that it reads
as the same URL again, provided that a host is read as itself.
-/

namespace LetletmeData.Library

/-! ### Writing -/

/-- The port that stands for none. -/
def defaultPort (scheme : String) : ℕ := if scheme = "https" then 443 else 80

/-- The credentials before a host. -/
def credentialsText (username password : List Char) : List Char :=
  if username = [] ∧ password = [] then []
  else username ++ (if password = [] then [] else ':' :: password) ++ ['@']

/-- The port behind a host. -/
def portText : Option ℕ → List Char
  | none => []
  | some port => ':' :: Nat.toDigits 10 port

/-- The authority of a URL. -/
def authorityText (authority : UrlAuthority) : List Char :=
  credentialsText authority.username.toList authority.password.toList ++
    (authority.hostname.toList ++ portText authority.port)

/-- What follows a mark, if there is something. -/
def markedText (mark : Char) : Option String → List Char
  | none => []
  | some text => mark :: text.toList

/-- The characters of the getter `href`, for URLs that have a host. -/
def Url.hrefChars (url : Url) : List Char :=
  url.scheme.toList ++ ':' :: '/' :: '/' :: (authorityText url.parts.toUrlAuthority ++
    (url.pathname.toList ++ (markedText '?' url.parts.query ++
      markedText '#' url.parts.fragment)))

/-- The getter `href`, which is also what `toString` gives. -/
def Url.href (url : Url) : String := String.ofList url.hrefChars

/-- The setter `hostname`: a text that is read as no host leaves the URL as it is. -/
def Url.setHostname (host : UrlHost) (url : Url) (text : String) : Url :=
  let chars := (text.toList.filter fun c => !isTabOrNewline c).takeWhile fun c => !endsAuthority c
  match splitPort false chars with
  | (hostname, none) =>
    if hostname = [] then url
    else
      match host.parseHost (String.ofList hostname) with
      | some hostname => { url with parts := { url.parts with hostname := hostname } }
      | none => url
  | (_, some _) => url

/-! ### Hosts -/

/-- The characters of domains and of addresses of version 4. -/
def isDomainChar (c : Char) : Bool :=
  !inControlSet c && !c.isUpper && !" #%/:<>?@[\\]^|".toList.contains c

/-- The characters of addresses of version 6. -/
def isBracketedChar (c : Char) : Bool := c.isDigit || ('a' ≤ c && c ≤ 'f') || c = ':'

/-- Hosts as the parser writes them: a domain or an address of version 4, or an address of version 6
in brackets. -/
def IsHostText (hostname : String) : Prop :=
  (hostname ≠ "" ∧ ∀ c ∈ hostname.toList, isDomainChar c = true) ∨
    ∃ inner, hostname.toList = '[' :: (inner ++ [']']) ∧ ∀ c ∈ inner, isBracketedChar c = true

/-- What is known of the parser of hosts: it writes hosts in one way, and reads that as the same
host. -/
structure UrlHost.Lawful (host : UrlHost) : Prop where
  written : ∀ text hostname, host.parseHost text = some hostname → IsHostText hostname
  stable : ∀ text hostname, host.parseHost text = some hostname →
    host.parseHost hostname = some hostname

/-! ### What is read is written in one way -/

/-- A segment that is read as itself. -/
structure IsSegment (segment : List Char) : Prop where
  chars : ∀ c ∈ segment, inPathSet c = false ∧ isSlash c = false
  named : isSingleDot segment = false ∧ isDoubleDot segment = false

/-- A URL as the parser leaves it. -/
structure IsWritten (host : UrlHost) (url : Url) : Prop where
  scheme : url.scheme = "https" ∨ url.scheme = "http"
  username : ∀ c ∈ url.parts.username.toList, inUserinfoSet c = false
  password : ∀ c ∈ url.parts.password.toList, inUserinfoSet c = false
  hostname : host.parseHost url.parts.hostname = some url.parts.hostname
  hostText : IsHostText url.parts.hostname
  port : ∀ port ∈ url.parts.port, port ≤ 65535 ∧ port ≠ defaultPort url.scheme
  path : url.parts.path ≠ []
  segments : ∀ segment ∈ url.parts.path, IsSegment segment.toList
  query : ∀ query ∈ url.parts.query, ∀ c ∈ query.toList, inQuerySet c = false
  fragment : ∀ fragment ∈ url.parts.fragment, ∀ c ∈ fragment.toList, inFragmentSet c = false

/-- The characters of percent-encoded bytes are in none of the sets. -/
def sparesEncoded (inSet : Char → Bool) : Prop :=
  inSet '%' = false ∧ ∀ digit < 16, inSet (upperHexDigit digit) = false

/-- What was encoded needs no encoding. -/
theorem of_mem_percentEncode {inSet : Char → Bool} (hset : sparesEncoded inSet) {c original : Char}
    (h : c ∈ percentEncode inSet original) : inSet c = false := by
  rw [percentEncode] at h
  split at h
  next =>
    obtain ⟨byte, _, hbyte⟩ := List.mem_flatMap.mp h
    have hlt : byte.toNat < 256 := byte.toNat_lt_size
    simp only [percentByte, List.mem_cons, List.not_mem_nil, or_false] at hbyte
    obtain rfl | rfl | rfl := hbyte
    · exact hset.1
    · exact hset.2 _ (by omega)
    · exact hset.2 _ (by omega)
  next hplain => exact List.mem_singleton.mp h ▸ Bool.eq_false_iff.mpr hplain

/-- What was encoded needs no encoding. -/
theorem of_mem_percentEncoded {inSet : Char → Bool} (hset : sparesEncoded inSet) {c : Char}
    {chars : List Char} (h : c ∈ (percentEncoded inSet chars).toList) : inSet c = false := by
  rw [percentEncoded, String.toList_ofList] at h
  obtain ⟨original, _, hc⟩ := List.mem_flatMap.mp h
  exact of_mem_percentEncode hset hc

/-- What needs no encoding stays as it is. -/
theorem flatMap_percentEncode_of_plain {inSet : Char → Bool} {chars : List Char}
    (h : ∀ c ∈ chars, inSet c = false) : chars.flatMap (percentEncode inSet) = chars := by
  induction chars with
  | nil => rfl
  | cons c rest ih =>
    rw [List.flatMap_cons, percentEncode, h c List.mem_cons_self,
      ih fun other hother => h other (List.mem_cons_of_mem _ hother)]
    rfl

/-- What needs no encoding stays as it is. -/
theorem percentEncoded_of_plain {inSet : Char → Bool} {text : String}
    (h : ∀ c ∈ text.toList, inSet c = false) : percentEncoded inSet text.toList = text := by
  rw [percentEncoded, flatMap_percentEncode_of_plain h, String.ofList_toList]

/-- The sets spare what was encoded. -/
theorem sets_spareEncoded : sparesEncoded inUserinfoSet ∧ sparesEncoded inPathSet ∧
    sparesEncoded inQuerySet ∧ sparesEncoded inFragmentSet := by
  unfold sparesEncoded
  decide

/-- The end of a segment keeps a path as it should be. -/
theorem segments_endSegment {slash : Bool} {path : List String} {segment : List Char}
    (hpath : ∀ other ∈ path, IsSegment other.toList)
    (hsegment : ∀ c ∈ segment, inPathSet c = false ∧ isSlash c = false) :
    (∀ other ∈ endSegment slash path segment, IsSegment other.toList) ∧
      (slash = false → endSegment slash path segment ≠ []) := by
  have hempty : IsSegment "".toList := ⟨fun c hc => (nomatch hc), by decide⟩
  have hends : ∀ others : List String, (∀ other ∈ others, IsSegment other.toList) →
      ∀ other ∈ others ++ (if slash = true then [] else [""]), IsSegment other.toList := by
    intro others hothers other hmem
    obtain hmem | hmem := List.mem_append.mp hmem
    · exact hothers other hmem
    · split at hmem
      next => exact nomatch hmem
      next => exact List.mem_singleton.mp hmem ▸ hempty
  rw [endSegment]
  split
  next =>
    exact ⟨hends _ fun other hother => hpath other (List.mem_of_mem_dropLast hother),
      fun hslash => by simp [hslash]⟩
  next hdouble =>
    split
    next => exact ⟨hends _ hpath, fun hslash => by simp [hslash]⟩
    next hsingle =>
      refine ⟨fun other hother => ?_, fun _ => by simp⟩
      obtain hother | hother := List.mem_append.mp hother
      · exact hpath other hother
      · rw [List.mem_singleton.mp hother, String.toList_ofList]
        exact ⟨hsegment, Bool.eq_false_iff.mpr hsingle, Bool.eq_false_iff.mpr hdouble⟩

/-- Encoded characters are no slashes. -/
theorem isSlash_of_mem_percentEncode {c original : Char} (hslash : isSlash original = false)
    (h : c ∈ percentEncode inPathSet original) : isSlash c = false := by
  have hdigits : ∀ digit < 16, isSlash (upperHexDigit digit) = false := by decide
  rw [percentEncode] at h
  split at h
  next =>
    obtain ⟨byte, _, hbyte⟩ := List.mem_flatMap.mp h
    have hlt : byte.toNat < 256 := byte.toNat_lt_size
    simp only [percentByte, List.mem_cons, List.not_mem_nil, or_false] at hbyte
    obtain rfl | rfl | rfl := hbyte
    · rfl
    · exact hdigits _ (by omega)
    · exact hdigits _ (by omega)
  next => exact List.mem_singleton.mp h ▸ hslash

/-- A path is read into segments that are read as themselves. -/
theorem segments_parsePath {path : List String} {segment chars : List Char}
    (hpath : ∀ other ∈ path, IsSegment other.toList)
    (hsegment : ∀ c ∈ segment, inPathSet c = false ∧ isSlash c = false) :
    (∀ other ∈ parsePath path segment chars, IsSegment other.toList) ∧
      parsePath path segment chars ≠ [] := by
  induction chars generalizing path segment with
  | nil =>
    have hend := @segments_endSegment false path segment hpath hsegment
    exact ⟨hend.1, hend.2 rfl⟩
  | cons c rest ih =>
    rw [parsePath]
    split
    next => exact ih (segments_endSegment hpath hsegment).1 (List.forall_mem_nil _)
    next hslash =>
      refine ih hpath fun other hother => ?_
      obtain hother | hother := List.mem_append.mp hother
      · exact hsegment other hother
      · exact ⟨of_mem_percentEncode sets_spareEncoded.2.1 hother,
          isSlash_of_mem_percentEncode (Bool.eq_false_iff.mpr hslash) hother⟩

/-- The path behind an authority is read into segments that are read as themselves. -/
theorem segments_readPath (chars : List Char) :
    (∀ other ∈ readPath chars, IsSegment other.toList) ∧ readPath chars ≠ [] := by
  have hread : ∀ chars, (∀ other ∈ parsePath [] [] chars, IsSegment other.toList) ∧
      parsePath [] [] chars ≠ [] :=
    fun chars => segments_parsePath (fun other hother => nomatch hother) fun c hc => nomatch hc
  cases chars with
  | nil => exact hread []
  | cons c rest =>
    rw [readPath]
    split
    · exact hread rest
    · exact hread (c :: rest)

/-- A port that is read is not the default one. -/
theorem readPort_spec {defaultPort port : ℕ} {text : Option (List Char)} {read : Option ℕ}
    (h : readPort defaultPort text = some read) (hport : port ∈ read) :
    port ≤ 65535 ∧ port ≠ defaultPort := by
  unfold readPort at h
  split at h
  next => exact absurd hport (Option.some.inj h ▸ nofun)
  next => exact absurd hport (Option.some.inj h ▸ nofun)
  next =>
    split at h
    next hdigits =>
      obtain rfl := Option.some.inj h
      split at hport
      next => exact nomatch hport
      next hother =>
        obtain rfl := Option.some.inj hport
        exact ⟨hdigits.2, hother⟩
    next => exact nomatch h

/-- What an authority is read as. -/
theorem parseAuthority_spec {host : UrlHost} (hhost : host.Lawful) {defaultPort : ℕ}
    {chars : List Char} {authority : UrlAuthority}
    (h : parseAuthority host defaultPort chars = some authority) :
    (∀ c ∈ authority.username.toList, inUserinfoSet c = false) ∧
      (∀ c ∈ authority.password.toList, inUserinfoSet c = false) ∧
      host.parseHost authority.hostname = some authority.hostname ∧
      IsHostText authority.hostname ∧
      ∀ port ∈ authority.port, port ≤ 65535 ∧ port ≠ defaultPort := by
  unfold parseAuthority at h
  dsimp only at h
  split at h
  next => exact nomatch h
  next =>
    obtain ⟨hostname, hhostname, h⟩ := Option.bind_eq_some_iff.mp h
    obtain ⟨port, hport, h⟩ := Option.bind_eq_some_iff.mp h
    obtain rfl := Option.some.inj h
    exact ⟨fun c => of_mem_percentEncoded sets_spareEncoded.1,
      fun c => of_mem_percentEncoded sets_spareEncoded.1, hhost.stable _ _ hhostname,
      hhost.written _ _ hhostname, fun number => readPort_spec hport⟩

/-- What the parser reads is as it leaves it. -/
theorem isWritten_of_parseUrl {host : UrlHost} (hhost : host.Lawful) {text : String} {url : Url}
    (h : parseUrl host text = some url) (hscheme : url.scheme = "https" ∨ url.scheme = "http") :
    IsWritten host url := by
  obtain ⟨⟨scheme, rest⟩, _, h⟩ := Option.bind_eq_some_iff.mp h
  obtain ⟨parts, hparts, rfl⟩ := Option.map_eq_some_iff.mp h
  have hspecial : parseSpecial host (defaultPort scheme) rest = some parts := by
    obtain rfl | rfl := hscheme
    · exact hparts
    · exact hparts
  obtain ⟨authority, hauthority, rfl⟩ := Option.map_eq_some_iff.mp hspecial
  obtain ⟨husername, hpassword, hhostname, htext, hport⟩ := parseAuthority_spec hhost hauthority
  have hpath := segments_readPath
    (((rest.dropWhile isSlash).dropWhile fun c => !endsAuthority c).takeWhile fun c => !endsPath c)
  refine ⟨hscheme, husername, hpassword, hhostname, htext, hport, hpath.2, hpath.1, ?_, ?_⟩
  · intro query hquery c hc
    obtain ⟨_, _, rfl⟩ := Option.map_eq_some_iff.mp hquery
    exact of_mem_percentEncoded sets_spareEncoded.2.2.1 hc
  · intro fragment hfragment c hc
    obtain ⟨_, _, rfl⟩ := Option.map_eq_some_iff.mp hfragment
    exact of_mem_percentEncoded sets_spareEncoded.2.2.2 hc

/-! ### What is written is read -/

/-- The path of a URL is read as its segments. -/
theorem parsePath_segments {path more : List String} {segment read rest : List Char}
    (hsegment : IsSegment (read ++ segment))
    (hmore : ∀ other ∈ more, IsSegment other.toList)
    (hrest : rest = segment ++ more.flatMap fun other => '/' :: other.toList) :
    parsePath path read rest = path ++ String.ofList (read ++ segment) :: more := by
  subst hrest
  have hend : ∀ slash path (chars : List Char), IsSegment chars →
      endSegment slash path chars = path ++ [String.ofList chars] := by
    intro slash path chars hchars
    rw [endSegment, if_neg (by rw [hchars.named.2]; decide),
      if_neg (by rw [hchars.named.1]; decide)]
  induction more generalizing path segment read with
  | nil =>
    rw [List.flatMap_nil, List.append_nil]
    induction segment generalizing read with
    | nil =>
      rw [List.append_nil] at hsegment ⊢
      rw [parsePath, hend _ _ _ hsegment]
    | cons c segment ih =>
      have hc := hsegment.chars c (by simp)
      have hself : percentEncode inPathSet c = [c] := if_neg (by rw [hc.1]; decide)
      rw [parsePath, if_neg (by rw [hc.2]; decide), hself, ih]
      · rw [List.append_assoc, List.singleton_append]
      · rw [List.append_assoc, List.singleton_append]
        exact hsegment
  | cons other more ih =>
    induction segment generalizing read with
    | nil =>
      rw [List.append_nil] at hsegment ⊢
      rw [List.nil_append, List.flatMap_cons, List.cons_append, parsePath_slash,
        hend _ _ _ hsegment]
      have hother : IsSegment ([] ++ other.toList) := hmore other List.mem_cons_self
      rw [ih hother fun last hlast => hmore last (List.mem_cons_of_mem _ hlast),
        List.nil_append, String.ofList_toList, List.append_assoc]
      rfl
    | cons c segment ihs =>
      have hc := hsegment.chars c (by simp)
      have hself : percentEncode inPathSet c = [c] := if_neg (by rw [hc.1]; decide)
      rw [List.cons_append, parsePath, if_neg (by rw [hc.2]; decide), hself, ihs]
      · rw [List.append_assoc, List.singleton_append]
      · rw [List.append_assoc, List.singleton_append]
        exact hsegment

/-- A path is read as it was written. -/
theorem readPath_segments {path : List String} (hpath : path ≠ [])
    (hsegments : ∀ segment ∈ path, IsSegment segment.toList) :
    readPath (path.flatMap fun segment => '/' :: segment.toList) = path := by
  cases path with
  | nil => exact absurd rfl hpath
  | cons segment more =>
    have hslash : isSlash '/' = true := rfl
    have hsegment : IsSegment ([] ++ segment.toList) := hsegments segment List.mem_cons_self
    rw [List.flatMap_cons, List.cons_append, readPath, if_pos hslash,
      parsePath_segments hsegment
        (fun other hother => hsegments other (List.mem_cons_of_mem _ hother)) rfl]
    rw [List.nil_append, List.nil_append, String.ofList_toList]

/-- A host text without brackets is read up to its end. -/
theorem splitPort_append_of_plain {chars : List Char} (insideBrackets : Bool)
    (h : ∀ c ∈ chars, c ≠ '[' ∧ c ≠ ']' ∧ (c = ':' → insideBrackets = true)) (rest : List Char) :
    splitPort insideBrackets (chars ++ rest) =
      (chars ++ (splitPort insideBrackets rest).1, (splitPort insideBrackets rest).2) := by
  induction chars with
  | nil => rfl
  | cons c chars ih =>
    obtain ⟨hopen, hclose, hcolon⟩ := h c List.mem_cons_self
    have hinside : ¬ (c = ':' ∧ insideBrackets = false) := by
      rintro ⟨rfl, hbrackets⟩
      rw [hcolon rfl] at hbrackets
      exact nomatch hbrackets
    rw [List.cons_append, splitPort, if_neg hinside, if_neg hopen, if_neg hclose]
    dsimp only
    rw [ih fun other hother => h other (List.mem_cons_of_mem _ hother)]
    rfl

/-- A written host is read up to its port. -/
theorem splitPort_hostText {hostname : String} (h : IsHostText hostname) (port : Option ℕ) :
    splitPort false (hostname.toList ++ portText port) =
      (hostname.toList, port.map (Nat.toDigits 10)) := by
  have hport : splitPort false (portText port) = ([], port.map (Nat.toDigits 10)) := by
    cases port with
    | none => rfl
    | some port => rw [portText, splitPort, if_pos ⟨rfl, rfl⟩]; rfl
  obtain ⟨_, hdomain⟩ | ⟨inner, hinner, hbracketed⟩ := h
  · rw [splitPort_append_of_plain false, hport, List.append_nil]
    intro c hc
    have hchar := hdomain c hc
    refine ⟨?_, ?_, ?_⟩
    all_goals
      rintro rfl
      exact absurd hchar (by decide)
  · have hbegin : splitPort false ('[' :: (inner ++ ([']'] ++ portText port))) =
        ('[' :: (splitPort true (inner ++ ([']'] ++ portText port))).1,
          (splitPort true (inner ++ ([']'] ++ portText port))).2) := rfl
    have hend : splitPort true ([']'] ++ portText port) =
        (']' :: (splitPort false (portText port)).1, (splitPort false (portText port)).2) := rfl
    rw [hinner, List.cons_append, List.append_assoc, hbegin, splitPort_append_of_plain true, hend,
      hport]
    intro c hc
    have hchar := hbracketed c hc
    refine ⟨?_, ?_, fun _ => rfl⟩
    all_goals
      rintro rfl
      exact absurd hchar (by decide)

/-- A port is read as it was written. -/
theorem readPort_toDigits {defaultPort : ℕ} {port : Option ℕ}
    (h : ∀ number ∈ port, number ≤ 65535 ∧ number ≠ defaultPort) :
    readPort defaultPort (port.map (Nat.toDigits 10)) = some port := by
  cases port with
  | none => rfl
  | some port =>
    obtain ⟨hsmall, hother⟩ := h port rfl
    have hvalue : decimalValue (Nat.toDigits 10 port) = port := Nat.ofDigitChars_ten_toDigits
    have hdigits : (Nat.toDigits 10 port).all Char.isDigit = true :=
      List.all_eq_true.mpr fun c hc =>
        Nat.isDigit_of_mem_toDigits (by omega) (Nat.le_refl 10) hc
    cases hchars : Nat.toDigits 10 port with
    | nil => exact absurd hchars (List.ne_nil_of_length_pos Nat.length_toDigits_pos)
    | cons c rest =>
      rw [hchars] at hvalue hdigits
      rw [Option.map_some, hchars, readPort, if_pos ⟨hdigits, hvalue.symm ▸ hsmall⟩, hvalue,
        if_neg hother]
      exact nofun

/-- Credentials are split from the host. -/
theorem splitCredentials_append {username password host : List Char} (hhost : '@' ∉ host) :
    splitCredentials (credentialsText username password ++ host) =
      (username ++ if password = [] then [] else ':' :: password, host) := by
  rw [credentialsText]
  split
  next hnone =>
    rw [List.nil_append, splitCredentials, if_neg hhost, hnone.1, hnone.2]
    rfl
  next =>
    generalize (username ++ if password = [] then [] else ':' :: password) = credentials
    have hmem : '@' ∈ credentials ++ ['@'] ++ host := by simp
    have hreverse : (credentials ++ ['@'] ++ host).reverse =
        host.reverse ++ '@' :: credentials.reverse := by simp
    have hat : ∀ c ∈ ('@' :: credentials.reverse).head?, decide (c ≠ '@') = false := by
      intro c hc
      obtain rfl := Option.some.inj hc
      rfl
    have hplain : ∀ c ∈ host.reverse, decide (c ≠ '@') = true := by
      intro c hc
      refine decide_eq_true ?_
      rintro rfl
      exact hhost (List.mem_reverse.mp hc)
    obtain ⟨htake, hdrop⟩ := scan_append hat host.reverse
    rw [splitCredentials, if_pos hmem, hreverse, htake, hdrop,
      List.takeWhile_eq_self_iff.mpr hplain, List.dropWhile_eq_nil_iff.mpr hplain,
      List.nil_append, List.tail_cons, List.reverse_reverse, List.reverse_reverse]

/-- A character that is printed. -/
def IsVisible (c : Char) : Prop := inControlSet c = false ∧ c ≠ ' '

/-- The code of a visible character. -/
theorem IsVisible.lt {c : Char} (h : IsVisible c) : 0x20 < c.toNat := by
  obtain ⟨hcontrol, hspace⟩ := h
  have hcode : c.toNat ≠ 0x20 := fun heq => hspace (Char.toNat_inj.mp heq)
  simp only [inControlSet, Bool.or_eq_false_iff, decide_eq_false_iff_not] at hcontrol
  omega

/-- A visible character is no tab and no line end. -/
theorem IsVisible.isTabOrNewline {c : Char} (h : IsVisible c) : isTabOrNewline c = false := by
  have hlt := h.lt
  simp only [Library.isTabOrNewline, Bool.or_eq_false_iff, decide_eq_false_iff_not]
  refine ⟨⟨?_, ?_⟩, ?_⟩
  all_goals
    rintro rfl
    exact absurd hlt (by decide)

/-- What the sets spare is visible. -/
theorem isVisible_of_inPathSet {c : Char} (h : inPathSet c = false) : IsVisible c := by
  refine ⟨(Bool.or_eq_false_iff.mp h).1, ?_⟩
  rintro rfl
  exact absurd h (by decide)

/-- A digit is visible, and ends nothing. -/
theorem isVisible_of_isDigit {c : Char} (h : c.isDigit = true) :
    IsVisible c ∧ endsAuthority c = false := by
  have hcode : 48 ≤ c.toNat ∧ c.toNat ≤ 57 := by
    simpa [Char.isDigit, UInt32.le_iff_toNat_le] using h
  have hother : ∀ other : Char, other.toNat < 48 ∨ 57 < other.toNat → c ≠ other := by
    rintro other hlt rfl
    omega
  refine ⟨⟨?_, hother _ (by decide)⟩, ?_⟩
  · simp only [inControlSet, Bool.or_eq_false_iff, decide_eq_false_iff_not]
    omega
  · simp only [endsAuthority, isSlash, Bool.or_eq_false_iff, decide_eq_false_iff_not]
    exact ⟨⟨⟨hother _ (by decide), hother _ (by decide)⟩, hother _ (by decide)⟩,
      hother _ (by decide)⟩

/-- What is none of four characters ends no authority. -/
theorem endsAuthority_eq_false {c : Char} (hslash : c ≠ '/') (hback : c ≠ '\\') (hquery : c ≠ '?')
    (hhash : c ≠ '#') : endsAuthority c = false := by
  simp [endsAuthority, isSlash, hslash, hback, hquery, hhash]

/-- The characters of a written host end no authority, and are visible. -/
theorem of_mem_hostText {hostname : String} (h : IsHostText hostname) {c : Char}
    (hc : c ∈ hostname.toList) : IsVisible c ∧ endsAuthority c = false ∧ c ≠ '@' := by
  obtain ⟨_, hdomain⟩ | ⟨inner, hinner, hbracketed⟩ := h
  · have hchar := hdomain c hc
    have hother : ∀ other : Char, isDomainChar other = false → c ≠ other := by
      rintro other hnot rfl
      exact absurd (hnot.symm.trans hchar) (by decide)
    have hcontrol : inControlSet c = false := by
      rw [isDomainChar, Bool.and_eq_true, Bool.and_eq_true, Bool.not_eq_true'] at hchar
      exact hchar.1.1
    exact ⟨⟨hcontrol, hother _ (by decide)⟩, endsAuthority_eq_false (hother _ (by decide))
      (hother _ (by decide)) (hother _ (by decide)) (hother _ (by decide)), hother _ (by decide)⟩
  · have hinside : ∀ c, isBracketedChar c = true →
        IsVisible c ∧ endsAuthority c = false ∧ c ≠ '@' := by
      intro c hchar
      have hother : ∀ other : Char, isBracketedChar other = false → c ≠ other := by
        rintro other hnot rfl
        exact absurd (hnot.symm.trans hchar) (by decide)
      have hcontrol : inControlSet c = false := by
        simp only [isBracketedChar, Bool.or_eq_true, Bool.and_eq_true, decide_eq_true_eq] at hchar
        obtain (hdigit | ⟨hfrom, hto⟩) | rfl := hchar
        · exact (isVisible_of_isDigit hdigit).1.1
        · have hfrom : 97 ≤ c.toNat := hfrom
          have hto : c.toNat ≤ 102 := hto
          simp only [inControlSet, Bool.or_eq_false_iff, decide_eq_false_iff_not]
          omega
        · rfl
      exact ⟨⟨hcontrol, hother _ (by decide)⟩, endsAuthority_eq_false (hother _ (by decide))
        (hother _ (by decide)) (hother _ (by decide)) (hother _ (by decide)), hother _ (by decide)⟩
    rw [hinner, List.mem_cons, List.mem_append, List.mem_singleton] at hc
    obtain rfl | hc | rfl := hc
    · exact ⟨⟨rfl, by decide⟩, rfl, by decide⟩
    · exact hinside c (hbracketed c hc)
    · exact ⟨⟨rfl, by decide⟩, rfl, by decide⟩

/-- The parts of a written URL. -/
theorem parseAuthority_authorityText {host : UrlHost} {url : Url} (h : IsWritten host url) :
    parseAuthority host (defaultPort url.scheme) (authorityText url.parts.toUrlAuthority) =
      some url.parts.toUrlAuthority := by
  have hhost : '@' ∉ url.parts.hostname.toList ++ portText url.parts.port := by
    rw [List.mem_append, not_or]
    refine ⟨fun hmem => (of_mem_hostText h.hostText hmem).2.2 rfl, ?_⟩
    cases url.parts.port with
    | none => exact nofun
    | some port =>
      rw [portText, List.mem_cons, not_or]
      exact ⟨by decide, not_mem_toDigits (by decide) port⟩
  have hcolon : ∀ c ∈ url.parts.username.toList, decide (c ≠ ':') = true := by
    intro c hc
    refine decide_eq_true ?_
    rintro rfl
    exact absurd (h.username ':' hc) (by decide)
  have hnonempty : url.parts.hostname.toList ≠ [] := by
    obtain ⟨hname, _⟩ | ⟨inner, hinner, _⟩ := h.hostText
    · exact fun hnil => hname (String.toList_eq_nil_iff.mp hnil)
    · exact hinner ▸ List.cons_ne_nil _ _
  have hsplit : (url.parts.username.toList ++
      if url.parts.password.toList = [] then [] else ':' :: url.parts.password.toList).takeWhile
        (· ≠ ':') = url.parts.username.toList ∧
      ((url.parts.username.toList ++
        if url.parts.password.toList = [] then [] else ':' :: url.parts.password.toList).dropWhile
          (· ≠ ':')).tail = url.parts.password.toList := by
    split
    next hnone =>
      rw [List.append_nil, List.takeWhile_eq_self_iff.mpr hcolon,
        List.dropWhile_eq_nil_iff.mpr hcolon, hnone]
      exact ⟨rfl, rfl⟩
    next =>
      have hmark : ∀ c ∈ (':' :: url.parts.password.toList).head?, decide (c ≠ ':') = false := by
        intro c hc
        obtain rfl := Option.some.inj hc
        rfl
      obtain ⟨htake, hdrop⟩ := scan_append hmark url.parts.username.toList
      rw [htake, hdrop, List.takeWhile_eq_self_iff.mpr hcolon,
        List.dropWhile_eq_nil_iff.mpr hcolon]
      exact ⟨rfl, rfl⟩
  unfold parseAuthority
  rw [authorityText, splitCredentials_append hhost]
  dsimp only
  rw [splitPort_hostText h.hostText, if_neg hnonempty, String.ofList_toList, h.hostname,
    readPort_toDigits h.port, hsplit.1, hsplit.2, percentEncoded_of_plain h.username,
    percentEncoded_of_plain h.password]
  rfl

/-- A written host is in lower case. -/
theorem toLower_of_mem_hostText {hostname : String} (h : IsHostText hostname) {c : Char}
    (hc : c ∈ hostname.toList) : c.toLower = c := by
  have hupper : c.isUpper = false := by
    obtain ⟨_, hdomain⟩ | ⟨inner, hinner, hbracketed⟩ := h
    · have hchar := hdomain c hc
      rw [isDomainChar, Bool.and_eq_true, Bool.and_eq_true, Bool.not_eq_true',
        Bool.not_eq_true'] at hchar
      exact hchar.1.2
    · have hinside : ∀ c, isBracketedChar c = true → c.isUpper = false := by
        intro c hchar
        rw [Bool.eq_false_iff]
        intro hup
        have hcode : 65 ≤ c.toNat ∧ c.toNat ≤ 90 := by
          have hrange : decide (c.val ≥ 'A'.val ∧ c.val ≤ 'Z'.val) = true := hup
          simpa [UInt32.le_iff_toNat_le] using hrange
        simp only [isBracketedChar, Bool.or_eq_true, Bool.and_eq_true, decide_eq_true_eq] at hchar
        obtain (hdigit | ⟨hfrom, _⟩) | rfl := hchar
        · have hdigits : 48 ≤ c.toNat ∧ c.toNat ≤ 57 := by
            simpa [Char.isDigit, UInt32.le_iff_toNat_le] using hdigit
          omega
        · have hfrom : 97 ≤ c.toNat := hfrom
          omega
        · exact absurd hcode (by decide)
      rw [hinner, List.mem_cons, List.mem_append, List.mem_singleton] at hc
      obtain rfl | hc | rfl := hc
      · rfl
      · exact hinside c (hbracketed c hc)
      · rfl
  rw [Bool.eq_false_iff] at hupper
  exact dif_neg fun hbounds => hupper (decide_eq_true hbounds)

/-- The characters of a written authority. -/
theorem of_mem_authorityText {host : UrlHost} {url : Url} (h : IsWritten host url) {c : Char}
    (hc : c ∈ authorityText url.parts.toUrlAuthority) : IsVisible c ∧ endsAuthority c = false := by
  have hcredential : ∀ c, inUserinfoSet c = false → IsVisible c ∧ endsAuthority c = false := by
    intro c hplain
    have hother : ∀ other : Char, inUserinfoSet other = true → c ≠ other := by
      rintro other hin rfl
      exact absurd (hin.symm.trans hplain) (by decide)
    exact ⟨isVisible_of_inPathSet (Bool.or_eq_false_iff.mp hplain).1,
      endsAuthority_eq_false (hother _ (by decide)) (hother _ (by decide)) (hother _ (by decide))
        (hother _ (by decide))⟩
  rw [authorityText, List.mem_append, List.mem_append] at hc
  obtain hc | hc | hc := hc
  · rw [credentialsText] at hc
    split at hc
    next => exact nomatch hc
    next =>
      rw [List.mem_append, List.mem_append, List.mem_singleton] at hc
      obtain (hc | hc) | rfl := hc
      · exact hcredential c (h.username c hc)
      · split at hc
        next => exact nomatch hc
        next =>
          obtain rfl | hc := List.mem_cons.mp hc
          · exact ⟨⟨rfl, by decide⟩, rfl⟩
          · exact hcredential c (h.password c hc)
      · exact ⟨⟨rfl, by decide⟩, rfl⟩
  · obtain ⟨hvisible, hends, _⟩ := of_mem_hostText h.hostText hc
    exact ⟨hvisible, hends⟩
  · cases hport : url.parts.port with
    | none => exact absurd (hport ▸ hc) nofun
    | some port =>
      rw [hport, portText] at hc
      obtain rfl | hc := List.mem_cons.mp hc
      · exact ⟨⟨rfl, by decide⟩, rfl⟩
      · exact isVisible_of_isDigit (Nat.isDigit_of_mem_toDigits (by omega) (Nat.le_refl 10) hc)

/-- An authority is not empty. -/
theorem authorityText_ne_nil {host : UrlHost} {url : Url} (h : IsWritten host url) :
    authorityText url.parts.toUrlAuthority ≠ [] := by
  have hname : url.parts.hostname.toList ≠ [] := by
    obtain ⟨hname, _⟩ | ⟨inner, hinner, _⟩ := h.hostText
    · exact fun hnil => hname (String.toList_eq_nil_iff.mp hnil)
    · exact hinner ▸ List.cons_ne_nil _ _
  exact List.append_ne_nil_of_right_ne_nil _ (List.append_ne_nil_of_left_ne_nil hname _)

/-- The characters of a written path. -/
theorem of_mem_pathname {host : UrlHost} {url : Url} (h : IsWritten host url) {c : Char}
    (hc : c ∈ url.pathname.toList) : IsVisible c ∧ endsPath c = false := by
  rw [toList_pathname] at hc
  obtain ⟨segment, hsegment, hc⟩ := List.mem_flatMap.mp hc
  obtain rfl | hc := List.mem_cons.mp hc
  · exact ⟨⟨rfl, by decide⟩, rfl⟩
  · have hplain := ((h.segments segment hsegment).chars c hc).1
    have hother : ∀ other : Char, inPathSet other = true → c ≠ other := by
      rintro other hin rfl
      exact absurd (hin.symm.trans hplain) (by decide)
    refine ⟨isVisible_of_inPathSet hplain, ?_⟩
    simp only [endsPath, Bool.or_eq_false_iff, decide_eq_false_iff_not]
    exact ⟨hother _ (by decide), hother _ (by decide)⟩

/-- The characters behind a mark. -/
theorem of_mem_markedText {mark : Char} {text : Option String} {inSet : Char → Bool}
    (hset : ∀ c, inSet c = false → IsVisible c) (hmark : IsVisible mark)
    (h : ∀ found ∈ text, ∀ c ∈ found.toList, inSet c = false) {c : Char}
    (hc : c ∈ markedText mark text) : IsVisible c := by
  cases text with
  | none => exact nomatch hc
  | some found =>
    obtain rfl | hc := List.mem_cons.mp hc
    · exact hmark
    · exact hset c (h found rfl c hc)

/-- A written URL is visible. -/
theorem isVisible_of_mem_hrefChars {host : UrlHost} {url : Url} (h : IsWritten host url) {c : Char}
    (hc : c ∈ url.hrefChars) : IsVisible c := by
  have hquery : ∀ c, inQuerySet c = false → IsVisible c := by
    refine fun c hplain => ⟨(Bool.or_eq_false_iff.mp hplain).1, ?_⟩
    rintro rfl
    exact absurd hplain (by decide)
  have hfragment : ∀ c, inFragmentSet c = false → IsVisible c := by
    refine fun c hplain => ⟨(Bool.or_eq_false_iff.mp hplain).1, ?_⟩
    rintro rfl
    exact absurd hplain (by decide)
  have hmark : ∀ c ∈ ['h', 't', 'p', 's', ':', '/', '?', '#'], IsVisible c := by
    intro c hc
    simp only [List.mem_cons, List.not_mem_nil, or_false] at hc
    obtain rfl | rfl | rfl | rfl | rfl | rfl | rfl | rfl := hc
    all_goals exact ⟨rfl, by decide⟩
  have hscheme : ∀ c ∈ url.scheme.toList, c ∈ ['h', 't', 'p', 's'] := by
    intro c hc
    obtain heq | heq := h.scheme
    · rw [heq] at hc
      simpa using hc
    · rw [heq] at hc
      have hfew : c ∈ ['h', 't', 'p'] := by simpa using hc
      exact List.mem_append_left ['s'] hfew
  simp only [Url.hrefChars, List.mem_append, List.mem_cons] at hc
  obtain hc | rfl | rfl | rfl | hc | hc | hc | hc := hc
  · exact hmark c (List.mem_append_left [':', '/', '?', '#'] (hscheme c hc))
  · exact hmark _ (by decide)
  · exact hmark _ (by decide)
  · exact hmark _ (by decide)
  · exact (of_mem_authorityText h hc).1
  · exact (of_mem_pathname h hc).1
  · exact of_mem_markedText hquery (hmark _ (by decide)) h.query hc
  · exact of_mem_markedText hfragment (hmark _ (by decide)) h.fragment hc

/-- A visible text is parsed as it is. -/
theorem cleanInput_of_visible {chars : List Char} (h : ∀ c ∈ chars, IsVisible c) :
    cleanInput (String.ofList chars) = chars := by
  have hkept : ∀ c ∈ chars, isC0OrSpace c = false ∧ isTabOrNewline c = false := by
    intro c hc
    have hlt := (h c hc).lt
    exact ⟨decide_eq_false (by omega), (h c hc).isTabOrNewline⟩
  have hcore : IsCore chars := ⟨fun c hc => (hkept c (List.mem_of_mem_head? hc)).1,
    fun c hc => (hkept c (List.mem_of_mem_getLast? hc)).1⟩
  have hclean := @cleanInput_surrounded [] chars [] hcore nofun nofun
  rw [List.nil_append, List.append_nil] at hclean
  rw [hclean, List.filter_eq_self]
  exact fun c hc => by rw [(hkept c hc).2]; rfl

/-- What follows a written authority is read as it was written. -/
theorem parseTail_written {host : UrlHost} {url : Url} (h : IsWritten host url) :
    parseTail url.parts.toUrlAuthority (url.pathname.toList ++
      (markedText '?' url.parts.query ++ markedText '#' url.parts.fragment)) = url.parts := by
  have hmarks : ∀ c ∈ (markedText '?' url.parts.query ++
      markedText '#' url.parts.fragment).head?, (!endsPath c) = false := by
    intro c hc
    cases hquery : url.parts.query with
    | none =>
      cases hfragment : url.parts.fragment with
      | none => rw [hquery, hfragment] at hc; exact nomatch hc
      | some fragment =>
        rw [hquery, hfragment] at hc
        obtain rfl := Option.some.inj hc
        rfl
    | some query =>
      rw [hquery] at hc
      obtain rfl := Option.some.inj hc
      rfl
  have hpath : ∀ c ∈ url.pathname.toList, (!endsPath c) = true :=
    fun c hc => by rw [(of_mem_pathname h hc).2]; rfl
  have hhash : ∀ c ∈ (markedText '#' url.parts.fragment).head?, decide (c ≠ '#') = false := by
    intro c hc
    cases hfragment : url.parts.fragment with
    | none => rw [hfragment] at hc; exact nomatch hc
    | some fragment =>
      rw [hfragment] at hc
      obtain rfl := Option.some.inj hc
      rfl
  have hquery : ∀ c ∈ markedText '?' url.parts.query, decide (c ≠ '#') = true := by
    intro c hc
    refine decide_eq_true ?_
    cases hquery : url.parts.query with
    | none => rw [hquery] at hc; exact nomatch hc
    | some query =>
      rw [hquery] at hc
      obtain rfl | hc := List.mem_cons.mp hc
      · decide
      · rintro rfl
        exact absurd (h.query query hquery '#' hc) (by decide)
  obtain ⟨hpathTake, hpathDrop⟩ := scan_append hmarks url.pathname.toList
  obtain ⟨hqueryTake, hqueryDrop⟩ := scan_append hhash (markedText '?' url.parts.query)
  have hqueryRead : (markedText '?' url.parts.query).head?.map
      (fun _ => percentEncoded inQuerySet (markedText '?' url.parts.query).tail) =
        url.parts.query := by
    cases hfound : url.parts.query with
    | none => rfl
    | some query => exact congrArg some (percentEncoded_of_plain (h.query query hfound))
  have hfragmentRead : (markedText '#' url.parts.fragment).head?.map
      (fun _ => percentEncoded inFragmentSet (markedText '#' url.parts.fragment).tail) =
        url.parts.fragment := by
    cases hfound : url.parts.fragment with
    | none => rfl
    | some fragment => exact congrArg some (percentEncoded_of_plain (h.fragment fragment hfound))
  have hsegments := readPath_segments h.path h.segments
  rw [← toList_pathname] at hsegments
  unfold parseTail
  dsimp only
  rw [hpathTake, hpathDrop, List.takeWhile_eq_self_iff.mpr hpath,
    List.dropWhile_eq_nil_iff.mpr hpath, List.nil_append, hqueryTake, hqueryDrop,
    List.takeWhile_eq_self_iff.mpr hquery, List.dropWhile_eq_nil_iff.mpr hquery, List.nil_append,
    hsegments, hqueryRead, hfragmentRead]

/-- A written URL is read as itself. -/
theorem parseUrl_href {host : UrlHost} {url : Url} (h : IsWritten host url) :
    parseUrl host url.href = some url := by
  set tail := url.pathname.toList ++ (markedText '?' url.parts.query ++
    markedText '#' url.parts.fragment) with htail
  have hscheme : readScheme url.hrefChars = some (url.scheme, '/' :: '/' ::
      (authorityText url.parts.toUrlAuthority ++ tail)) := by
    obtain heq | heq := h.scheme
    · rw [Url.hrefChars, heq]
      rfl
    · rw [Url.hrefChars, heq]
      rfl
  have hslashes : ('/' :: '/' :: (authorityText url.parts.toUrlAuthority ++ tail)).dropWhile
      isSlash = authorityText url.parts.toUrlAuthority ++ tail := by
    cases hauthority : authorityText url.parts.toUrlAuthority with
    | nil => exact absurd hauthority (authorityText_ne_nil h)
    | cons c rest =>
      have hc := (of_mem_authorityText h (hauthority ▸ List.mem_cons_self)).2
      have hslash : isSlash c = false := by
        simp only [endsAuthority, Bool.or_eq_false_iff] at hc
        exact hc.1.1
      rw [List.dropWhile_cons_of_pos rfl, List.dropWhile_cons_of_pos rfl, List.cons_append,
        List.dropWhile_cons_of_neg (by rw [hslash]; decide)]
  have hends : ∀ c ∈ tail.head?, (!endsAuthority c) = false := by
    intro c hc
    cases hpath : url.parts.path with
    | nil => exact absurd hpath h.path
    | cons segment more =>
      rw [htail, toList_pathname, hpath] at hc
      obtain rfl := Option.some.inj hc
      rfl
  have hauthority : ∀ c ∈ authorityText url.parts.toUrlAuthority, (!endsAuthority c) = true :=
    fun c hc => by rw [(of_mem_authorityText h hc).2]; rfl
  obtain ⟨htake, hdrop⟩ := scan_append hends (authorityText url.parts.toUrlAuthority)
  have hspecial : parseSpecial host (defaultPort url.scheme) ('/' :: '/' ::
      (authorityText url.parts.toUrlAuthority ++ tail)) = some url.parts := by
    unfold parseSpecial
    dsimp only
    rw [hslashes, htake, hdrop, List.takeWhile_eq_self_iff.mpr hauthority,
      List.dropWhile_eq_nil_iff.mpr hauthority, List.nil_append, parseAuthority_authorityText h,
      Option.map_some, htail, parseTail_written h]
  have hparts : parseParts host url.scheme ('/' :: '/' ::
      (authorityText url.parts.toUrlAuthority ++ tail)) = some url.parts := by
    obtain heq | heq := h.scheme
    · rw [heq] at hspecial ⊢
      exact hspecial
    · rw [heq] at hspecial ⊢
      exact hspecial
  rw [parseUrl, Url.href, cleanInput_of_visible fun c => isVisible_of_mem_hrefChars h, hscheme,
    Option.bind_some]
  dsimp only
  rw [hparts, Option.map_some]

/-- A text that is read as a host is set as one. -/
theorem setHostname_eq {host : UrlHost} {text hostname : String} (url : Url)
    (hchars : ∀ c ∈ text.toList, isTabOrNewline c = false ∧ endsAuthority c = false)
    (hsplit : splitPort false text.toList = (text.toList, none)) (hne : text ≠ "")
    (hread : host.parseHost text = some hostname) :
    url.setHostname host text = { url with parts := { url.parts with hostname := hostname } } := by
  have hkept : text.toList.filter (fun c => !isTabOrNewline c) = text.toList :=
    List.filter_eq_self.mpr fun c hc => by rw [(hchars c hc).1]; rfl
  have hwhole : text.toList.takeWhile (fun c => !endsAuthority c) = text.toList :=
    List.takeWhile_eq_self_iff.mpr fun c hc => by rw [(hchars c hc).2]; rfl
  rw [Url.setHostname, hkept, hwhole, hsplit]
  dsimp only
  rw [if_neg fun hnil => hne (String.toList_eq_nil_iff.mp hnil), String.ofList_toList, hread]

/-- The host that a URL has is set without changing it. -/
theorem setHostname_self {host : UrlHost} {url : Url} (h : IsWritten host url) :
    url.setHostname host url.parts.hostname = url := by
  have hsplit := splitPort_hostText h.hostText none
  rw [portText, List.append_nil, Option.map_none] at hsplit
  refine setHostname_eq url (fun c hc => ?_) hsplit ?_ h.hostname
  · obtain ⟨hvisible, hends, _⟩ := of_mem_hostText h.hostText hc
    exact ⟨hvisible.isTabOrNewline, hends⟩
  · obtain ⟨hname, _⟩ | ⟨inner, hinner, _⟩ := h.hostText
    · exact hname
    · intro hempty
      rw [hempty] at hinner
      exact nomatch hinner

end LetletmeData.Library
