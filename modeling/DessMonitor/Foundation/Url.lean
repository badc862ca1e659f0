import DessMonitor.Foundation.PyString

/-!
# URLs

The part of `urllib.parse` that takes a URL apart: `urlparse` with the host
and port of its authority, `unquote` and `parse_qs`.  Where the library raises
`ValueError` the result is `none`.  Host names are lowered as ASCII text.
-/

namespace DessMonitor
namespace Url

open PyString

/-! ## IP literals -/

def isIPv4 (text : List Char) : Bool :=
  let octets := split '.' text
  octets.length = 4 && octets.all fun octet =>
    octet ≠ [] && octet.all Char.isDigit && octet.length ≤ 3 &&
      (octet = ['0'] || octet.head? ≠ some '0') &&
      PyFloat.digitsValue octet ≤ 255

def isHexDigit (c : Char) : Bool :=
  c.isDigit || ('a' ≤ c && c ≤ 'f') || ('A' ≤ c && c ≤ 'F')

def isHextet (text : List Char) : Bool :=
  text ≠ [] && text.length ≤ 4 && text.all isHexDigit

/-- The number of parts on one side of a `::`; a side may be empty. -/
def sideHextets (parts : List (List Char)) : Option ℕ :=
  if parts = [[]] then some 0
  else if parts.all isHextet then some parts.length
  else none

/-- `ipaddress.IPv6Address(text)` accepts the text without its zone. -/
def isIPv6 (text : List Char) : Bool :=
  let parts := split ':' text
  let last := parts.getLast?.getD []
  let parts :=
    if last.contains '.' then
      if isIPv4 last then parts.dropLast ++ [['0'], ['0']] else []
    else parts
  let inner := (parts.drop 1).dropLast
  if parts.length < 3 ∨ 9 < parts.length ∨ 1 < inner.count [] then false
  else if inner.count [] = 1 then
    let skip := inner.idxOf [] + 1
    match sideHextets (parts.take skip), sideHextets (parts.drop (skip + 1)) with
    | some before, some behind => before + behind < 8
    | _, _ => false
  else parts.length = 8 && parts.all isHextet

/-- What may stand between brackets in an authority. -/
def isBracketedHost (host : List Char) : Bool :=
  if host.head? = some 'v' then
    let (version, dot, rest) := partition '.' host
    dot && 2 ≤ version.length && (version.drop 1).all isHexDigit && rest ≠ [] &&
      rest.all (· ≠ '\n')
  else
    let (address, zoned, zone) := partition '%' host
    isIPv6 address && (!zoned || (zone ≠ [] && !zone.contains '%')) &&
      !host.contains '/'

/-! ## Splitting -/

structure ParseResult where
  scheme : List Char
  netloc : List Char
  path : List Char
  query : List Char
  deriving DecidableEq

def isAsciiLetter (c : Char) : Bool := c.toNat < 128 && c.isAlpha

def isSchemeChar (c : Char) : Bool :=
  isAsciiLetter c || c.isDigit || c = '+' || c = '-' || c = '.'

/-- Characters whose compatibility form contains a delimiter. -/
def hidesDelimiter (c : Char) : Bool :=
  [0x2047, 0x2048, 0x2049, 0x2100, 0x2101, 0x2105, 0x2106, 0x2a74, 0xfe13,
    0xfe16, 0xfe55, 0xfe56, 0xfe5f, 0xfe6b, 0xff03, 0xff0f, 0xff1a, 0xff1f,
    0xff20].contains c.toNat

def splitScheme (url : List Char) : List Char × List Char :=
  let (head, found, tail) := partition ':' url
  if found ∧ head.head?.any isAsciiLetter ∧ head.all isSchemeChar then
    (head.map Char.toLower, tail)
  else ([], url)

def usesParams (scheme : List Char) : Bool :=
  ["", "ftp", "hdl", "prospero", "http", "imap", "https", "shttp", "rtsp",
    "rtsps", "rtspu", "sip", "sips", "mms", "sftp", "tel"].contains
    (String.ofList scheme)

/-- The path before the `;` of its last segment. -/
def withoutParams (path : List Char) : List Char :=
  let segment := afterLast '/' path
  let directory := path.take (path.length - segment.length)
  directory ++ (partition ';' segment).1

/-- `urlparse(url)` without the fragment. -/
def urlparse (url : String) : Option ParseResult :=
  let text := (url.toList.dropWhile fun c => c.toNat ≤ 0x20).filter fun c =>
    c ≠ '\t' ∧ c ≠ '\r' ∧ c ≠ '\n'
  let (scheme, rest) := splitScheme text
  let isDelimiter : Char → Bool := fun c => c = '/' ∨ c = '?' ∨ c = '#'
  let (netloc, rest) :=
    if rest.take 2 = ['/', '/'] then
      ((rest.drop 2).takeWhile (!isDelimiter ·),
        (rest.drop 2).dropWhile (!isDelimiter ·))
    else ([], rest)
  let beforeFragment := (partition '#' rest).1
  let (path, _, query) := partition '?' beforeFragment
  let bracketed := (partition ']' (partition '[' netloc).2.2).1
  if netloc.contains '[' ≠ netloc.contains ']' then none
  else if netloc.contains '[' ∧ isBracketedHost bracketed = false then none
  else if netloc.any hidesDelimiter then none
  else
    some
      { scheme := scheme
        netloc := netloc
        path := if usesParams scheme then withoutParams path else path
        query := query }

/-! ## Authority -/

def hostinfo (netloc : List Char) : List Char × List Char :=
  let info := afterLast '@' netloc
  let (_, bracket, bracketed) := partition '[' info
  if bracket then
    let (host, _, rest) := partition ']' bracketed
    (host, (partition ':' rest).2.2)
  else
    let (host, _, port) := partition ':' info
    (host, port)

/-- `hostname`; empty stands for `None`. -/
def hostname (result : ParseResult) : List Char :=
  let (host, zoned, zone) := partition '%' (hostinfo result.netloc).1
  host.map Char.toLower ++ (if zoned then '%' :: zone else [])

/-- `port`: the outer `none` is `ValueError`, the inner one no port. -/
def port (result : ParseResult) : Option (Option ℕ) :=
  let digits := (hostinfo result.netloc).2
  if digits = [] then some none
  else if digits.all Char.isDigit ∧ digits.length ≤ 4300 ∧
      PyFloat.digitsValue digits ≤ 65535 then
    some (some (PyFloat.digitsValue digits))
  else none

/-! ## Queries -/

def hexValue (c : Char) : ℕ :=
  if c.isDigit then c.toNat - '0'.toNat
  else c.toLower.toNat - 'a'.toNat + 10

/-- Percent escapes of ASCII text as bytes. -/
def unquoteToBytes : List Char → List ℕ
  | '%' :: high :: low :: rest =>
      if isHexDigit high ∧ isHexDigit low then
        (hexValue high * 16 + hexValue low) :: unquoteToBytes rest
      else '%'.toNat :: unquoteToBytes (high :: low :: rest)
  | c :: rest => c.toNat :: unquoteToBytes rest
  | [] => []

def replacement : Char := Char.ofNat 0xfffd

/-- An unfinished UTF-8 sequence and the range of its next byte. -/
structure Partial where
  missing : ℕ
  value : ℕ
  low : ℕ
  high : ℕ

/-- The text of a first byte, or the sequence it opens. -/
def openSequence (byte : ℕ) : List Char × Option Partial :=
  if byte < 0x80 then ([Char.ofNat byte], none)
  else if 0xc2 ≤ byte ∧ byte ≤ 0xdf then
    ([], some ⟨1, byte - 0xc0, 0x80, 0xbf⟩)
  else if 0xe0 ≤ byte ∧ byte ≤ 0xef then
    ([], some ⟨2, byte - 0xe0, if byte = 0xe0 then 0xa0 else 0x80,
      if byte = 0xed then 0x9f else 0xbf⟩)
  else if 0xf0 ≤ byte ∧ byte ≤ 0xf4 then
    ([], some ⟨3, byte - 0xf0, if byte = 0xf0 then 0x90 else 0x80,
      if byte = 0xf4 then 0x8f else 0xbf⟩)
  else ([replacement], none)

def decodeFrom (unfinished : Option Partial) : List ℕ → List Char
  | [] => if unfinished.isSome then [replacement] else []
  | byte :: rest =>
      match unfinished with
      | none => (openSequence byte).1 ++ decodeFrom (openSequence byte).2 rest
      | some sequence =>
          if sequence.low ≤ byte ∧ byte ≤ sequence.high then
            let value := sequence.value * 64 + (byte - 0x80)
            if sequence.missing = 1 then
              Char.ofNat value :: decodeFrom none rest
            else
              decodeFrom (some ⟨sequence.missing - 1, value, 0x80, 0xbf⟩) rest
          else
            replacement :: (openSequence byte).1 ++
              decodeFrom (openSequence byte).2 rest

/-- UTF-8 with one replacement character for each maximal broken part. -/
def decodeUtf8 (bytes : List ℕ) : List Char := decodeFrom none bytes

/-- Runs of ASCII text are decoded, other characters stand for themselves. -/
def unquoteFrom (run : List Char) : List Char → List Char
  | [] => decodeUtf8 (unquoteToBytes run.reverse)
  | c :: rest =>
      if c.toNat < 128 then unquoteFrom (c :: run) rest
      else decodeUtf8 (unquoteToBytes run.reverse) ++ c :: unquoteFrom [] rest

/-- `unquote(text)`, after `+` became a space. -/
def unquotePlus (text : List Char) : List Char :=
  unquoteFrom [] (text.map fun c => if c = '+' then ' ' else c)

def parseQsl (query : List Char) : List (List Char × List Char) :=
  (split '&' query).filterMap fun field =>
    let (name, _, value) := partition '=' field
    if value = [] then none else some (unquotePlus name, unquotePlus value)

/-- `parse_qs(query).get(name)`, the first value only. -/
def queryValue (query : List Char) (name : String) : Option (List Char) :=
  (parseQsl query).findSome? fun field =>
    if field.1 = name.toList then some field.2 else none

/-! ## Well-formed URLs -/

def isKept (c : Char) : Bool := decide (c ≠ '\t' ∧ c ≠ '\r' ∧ c ≠ '\n')

def isDelimiter (c : Char) : Bool := decide (c = '/' ∨ c = '?' ∨ c = '#')

/-- Printable ASCII without the delimiters of an authority. -/
def isPlain (c : Char) : Bool :=
  decide (0x21 ≤ c.toNat ∧ c.toNat ≤ 0x7e) && !isDelimiter c &&
    decide (c ≠ '[' ∧ c ≠ ']')

/-- A scheme in lower case. -/
structure IsScheme (scheme : List Char) : Prop where
  head : scheme.head?.any isAsciiLetter = true
  chars : scheme.all isSchemeChar = true
  lower : scheme.map Char.toLower = scheme
  params : usesParams scheme = false

theorem range_of_isAsciiLetter {c : Char}
    (hletter : isAsciiLetter c = true) :
    (65 ≤ c.toNat ∧ c.toNat ≤ 90) ∨ (97 ≤ c.toNat ∧ c.toNat ≤ 122) := by
  unfold isAsciiLetter at hletter
  rw [Bool.and_eq_true] at hletter
  have hcase : c.isUpper = true ∨ c.isLower = true :=
    (Bool.or_eq_true _ _).mp hletter.2
  rcases hcase with hupper | hlower
  · exact .inl (of_decide_eq_true hupper)
  · have hrange := (Bool.and_eq_true _ _).mp hlower
    exact .inr ⟨of_decide_eq_true hrange.1, of_decide_eq_true hrange.2⟩

theorem toNat_of_isSchemeChar {c : Char} (hchar : isSchemeChar c = true) :
    0x20 < c.toNat ∧ c ≠ ':' := by
  simp only [isSchemeChar, Bool.or_eq_true, decide_eq_true_eq] at hchar
  rcases hchar with (((hletter | hdigit) | rfl) | rfl) | rfl
  · have hrange := range_of_isAsciiLetter hletter
    refine ⟨by omega, ?_⟩
    rintro rfl
    exact absurd hletter (by decide)
  · have hrange := (isDigit_iff c).mp hdigit
    refine ⟨by omega, ?_⟩
    rintro rfl
    exact absurd hdigit (by decide)
  · decide
  · decide
  · decide

theorem isKept_of_toNat {c : Char} (hprintable : 0x20 < c.toNat) :
    isKept c = true := by
  unfold isKept
  rw [decide_eq_true_eq]
  refine ⟨?_, ?_, ?_⟩ <;> rintro rfl <;> exact absurd hprintable (by decide)

theorem toNat_of_isPlain {c : Char} (hplain : isPlain c = true) :
    0x20 < c.toNat ∧ c.toNat < 0x7f := by
  simp only [isPlain, Bool.and_eq_true, decide_eq_true_eq] at hplain
  omega

section WellFormed

variable {scheme authority rest : List Char}

theorem IsScheme.colon_notMem (hscheme : IsScheme scheme) :
    ':' ∉ scheme := by
  intro hmem
  have hchar := List.all_eq_true.mp hscheme.chars ':' hmem
  exact (toNat_of_isSchemeChar hchar).2 rfl

theorem filter_kept (hprintable : ∀ c ∈ authority, 0x20 < c.toNat) :
    authority.filter isKept = authority := by
  rw [List.filter_eq_self]
  intro c hmem
  exact isKept_of_toNat (hprintable c hmem)

theorem not_isDelimiter_of_isPlain {c : Char} (hplain : isPlain c = true) :
    isDelimiter c = false := by
  simp only [isPlain, Bool.and_eq_true, Bool.not_eq_true'] at hplain
  exact hplain.1.2

theorem takeWhile_authority
    (hauthority : ∀ c ∈ authority, isDelimiter c = false)
    (hrest : ∀ c ∈ rest.head?, isDelimiter c = true) :
    (authority ++ rest).takeWhile (!isDelimiter ·) = authority ∧
      (authority ++ rest).dropWhile (!isDelimiter ·) = rest := by
  induction authority with
  | nil =>
      cases rest with
      | nil => exact ⟨rfl, rfl⟩
      | cons c rest =>
          have hdelimiter := hrest c rfl
          simp [hdelimiter]
  | cons c authority ih =>
      have hnot := hauthority c List.mem_cons_self
      have htail := ih fun other hmem =>
        hauthority other (List.mem_cons_of_mem c hmem)
      simpa [hnot] using htail

theorem not_hidesDelimiter_of_ascii
    (hascii : ∀ c ∈ authority, c.toNat < 0x80) :
    authority.any hidesDelimiter = false := by
  rw [List.any_eq_false]
  intro c hmem
  have hrange := hascii c hmem
  simp only [hidesDelimiter, List.contains_eq_mem, decide_eq_true_eq,
    List.mem_cons, List.not_mem_nil, or_false]
  omega

/-- A URL with a scheme and an authority, before the authority is checked. -/
theorem urlparse_of_scheme (hscheme : IsScheme scheme) (body : List Char) :
    urlparse (.ofList (scheme ++ ':' :: '/' :: '/' :: body)) =
      let netloc := (body.filter isKept).takeWhile (!isDelimiter ·)
      let rest := (body.filter isKept).dropWhile (!isDelimiter ·)
      if netloc.contains '[' ≠ netloc.contains ']' then none
      else if netloc.contains '[' ∧
          isBracketedHost
            (partition ']' (partition '[' netloc).2.2).1 = false then none
      else if netloc.any hidesDelimiter then none
      else
        some
          { scheme := scheme
            netloc := netloc
            path := (partition '?' (partition '#' rest).1).1
            query := (partition '?' (partition '#' rest).1).2.2 } := by
  have hprintable : ∀ c ∈ scheme, 0x20 < c.toNat := by
    intro c hmem
    exact (toNat_of_isSchemeChar
      (List.all_eq_true.mp hscheme.chars c hmem)).1
  have htext : (((scheme ++ ':' :: '/' :: '/' :: body).dropWhile
      fun c => decide (c.toNat ≤ 0x20)).filter isKept) =
        scheme ++ ':' :: ('/' :: '/' :: body.filter isKept) := by
    have hstart : ((scheme ++ ':' :: '/' :: '/' :: body).dropWhile
        fun c => decide (c.toNat ≤ 0x20)) =
          scheme ++ ':' :: '/' :: '/' :: body := by
      cases scheme with
      | nil => exact absurd hscheme.head (by decide)
      | cons c scheme =>
          have hc := hprintable c List.mem_cons_self
          rw [List.cons_append, List.dropWhile_cons_of_neg]
          simpa using hc
    rw [hstart, List.filter_append, filter_kept hprintable]
    simp [isKept]
  have hsplit : splitScheme (scheme ++ ':' ::
      ('/' :: '/' :: body.filter isKept)) =
        (scheme, '/' :: '/' :: body.filter isKept) := by
    unfold splitScheme
    rw [partition_append hscheme.colon_notMem]
    dsimp only
    rw [if_pos ⟨rfl, hscheme.head, hscheme.chars⟩, hscheme.lower]
  have hslashes : ('/' :: '/' :: body.filter isKept).take 2 = ['/', '/'] := rfl
  have hdrop2 : ('/' :: '/' :: body.filter isKept).drop 2 =
      body.filter isKept := rfl
  have hkept : (fun c : Char => decide (c ≠ '\t' ∧ c ≠ '\r' ∧ c ≠ '\n')) =
      isKept := rfl
  have hdelimited : (fun c : Char => !decide (c = '/' ∨ c = '?' ∨ c = '#')) =
      (!isDelimiter ·) := rfl
  unfold urlparse
  dsimp only
  rw [String.toList_ofList, hkept, htext, hsplit]
  dsimp only
  rw [if_pos hslashes, hdelimited, hdrop2]
  dsimp only
  rw [hscheme.params]
  rfl

theorem isKept_of_isDelimiter {c : Char} (hdelimiter : isDelimiter c = true) :
    isKept c = true := by
  simp only [isDelimiter, decide_eq_true_eq] at hdelimiter
  rcases hdelimiter with rfl | rfl | rfl <;> decide

theorem head_filter_kept (hrest : ∀ c ∈ rest.head?, isDelimiter c = true) :
    ∀ c ∈ (rest.filter isKept).head?, isDelimiter c = true := by
  cases rest with
  | nil =>
      intro c hmem
      cases hmem
  | cons c rest =>
      have hfirst := hrest c rfl
      rw [List.filter_cons_of_pos (isKept_of_isDelimiter hfirst)]
      intro other hmem
      obtain rfl := Option.some.inj hmem
      exact hfirst

/-- A URL is split at its delimiters when its authority has no brackets. -/
theorem urlparse_of_authority (hscheme : IsScheme scheme)
    (hkept : ∀ c ∈ authority, isKept c = true)
    (hdelimiter : ∀ c ∈ authority, isDelimiter c = false)
    (hopen : '[' ∉ authority) (hclose : ']' ∉ authority)
    (hascii : ∀ c ∈ authority, c.toNat < 0x80)
    (hrest : ∀ c ∈ rest.head?, isDelimiter c = true) :
    urlparse (.ofList (scheme ++ ':' :: '/' :: '/' :: (authority ++ rest))) =
      some
        { scheme := scheme
          netloc := authority
          path := (partition '?' (partition '#' (rest.filter isKept)).1).1
          query :=
            (partition '?' (partition '#' (rest.filter isKept)).1).2.2 } := by
  have hbody : (authority ++ rest).filter isKept =
      authority ++ rest.filter isKept := by
    rw [List.filter_append, List.filter_eq_self.mpr hkept]
  obtain ⟨htake, hdrop⟩ :=
    takeWhile_authority hdelimiter (head_filter_kept hrest)
  have hnoOpen : authority.contains '[' = false := by
    simpa using hopen
  have hnoClose : authority.contains ']' = false := by
    simpa using hclose
  rw [urlparse_of_scheme hscheme, hbody, htake, hdrop]
  dsimp only
  rw [hnoOpen, hnoClose, not_hidesDelimiter_of_ascii hascii]
  simp

/-- A URL with a plain authority is split at its delimiters. -/
theorem urlparse_of_parts (hscheme : IsScheme scheme)
    (hauthority : ∀ c ∈ authority, isPlain c = true)
    (hrest : ∀ c ∈ rest.head?, isDelimiter c = true) :
    urlparse (.ofList (scheme ++ ':' :: '/' :: '/' :: (authority ++ rest))) =
      some
        { scheme := scheme
          netloc := authority
          path := (partition '?' (partition '#' (rest.filter isKept)).1).1
          query :=
            (partition '?' (partition '#' (rest.filter isKept)).1).2.2 } := by
  apply urlparse_of_authority hscheme _ _ _ _ _ hrest
  · intro c hmem
    exact isKept_of_toNat (toNat_of_isPlain (hauthority c hmem)).1
  · intro c hmem
    exact not_isDelimiter_of_isPlain (hauthority c hmem)
  · intro hmem
    exact absurd (hauthority '[' hmem) (by decide)
  · intro hmem
    exact absurd (hauthority ']' hmem) (by decide)
  · intro c hmem
    have hrange := toNat_of_isPlain (hauthority c hmem)
    omega

end WellFormed

end Url
end DessMonitor
