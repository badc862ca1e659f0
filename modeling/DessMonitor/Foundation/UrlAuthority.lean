import DessMonitor.Foundation.Url

/-!
# Reading a host and a port back

An authority is a host, a colon and the digits of a port.  `urlparse` gives
the host back exactly if it has no character that ends or splits an authority
and is in lower case up to a zone.
-/

namespace DessMonitor
namespace Url

open PyString

/-! ## Cutting -/

/-- The authority of a text as `urlparse` cuts it. -/
def cutAuthority (body : List Char) : List Char :=
  (body.filter isKept).takeWhile (!isDelimiter ·)

def fromDelimiter (body : List Char) : List Char :=
  (body.filter isKept).dropWhile (!isDelimiter ·)

def cutPath (body : List Char) : List Char :=
  (partition '?' (partition '#' (fromDelimiter body)).1).1

/-- An authority that `urlparse` does not refuse. -/
def isReadable (netloc : List Char) : Bool :=
  (netloc.contains '[' == netloc.contains ']') &&
    (!netloc.contains '[' ||
      isBracketedHost (partition ']' (partition '[' netloc).2.2).1) &&
    !netloc.any hidesDelimiter

theorem isReadable_iff {netloc : List Char} :
    isReadable netloc = true ↔
      netloc.contains '[' = netloc.contains ']' ∧
        ¬ (netloc.contains '[' = true ∧ isBracketedHost
          (partition ']' (partition '[' netloc).2.2).1 = false) ∧
        ¬ netloc.any hidesDelimiter = true := by
  unfold isReadable
  rw [Bool.and_eq_true, Bool.and_eq_true, beq_iff_eq, Bool.or_eq_true,
    Bool.not_eq_true', Bool.not_eq_true', and_assoc, not_and_or,
    Bool.not_eq_true, Bool.not_eq_true, Bool.not_eq_false]

/-- A URL with an authority is read exactly if the authority is. -/
theorem urlparse_eq {scheme : List Char} (hscheme : IsScheme scheme)
    (body : List Char) :
    urlparse (.ofList (scheme ++ ':' :: '/' :: '/' :: body)) =
      if isReadable (cutAuthority body) then
        some
          { scheme := scheme
            netloc := cutAuthority body
            path := cutPath body
            query :=
              (partition '?' (partition '#' (fromDelimiter body)).1).2.2 }
      else none := by
  have hnetloc : (body.filter isKept).takeWhile (!isDelimiter ·) =
      cutAuthority body := rfl
  rw [urlparse_of_scheme hscheme]
  dsimp only
  rw [hnetloc]
  by_cases hreadable : isReadable (cutAuthority body) = true
  · obtain ⟨hbalanced, hhost, hhidden⟩ := isReadable_iff.mp hreadable
    rw [if_pos hreadable, if_neg (not_not.mpr hbalanced), if_neg hhost,
      if_neg hhidden]
    rfl
  · rw [if_neg hreadable]
    split
    · rfl
    next hbalanced =>
    split
    · rfl
    next hhost =>
    split
    · rfl
    next hhidden =>
    exact absurd (isReadable_iff.mpr ⟨not_not.mp hbalanced, hhost, hhidden⟩)
      hreadable

/-- Without a slash there is no path, and a path starts with one. -/
theorem head_cutPath (body : List Char) :
    ∀ c ∈ (cutPath body).head?, c = '/' := by
  intro c hmem
  have hdelimiter := List.head?_dropWhile_not (!isDelimiter ·)
    (body.filter isKept)
  unfold cutPath at hmem
  rw [partition_fst, partition_fst] at hmem
  cases hrest : fromDelimiter body with
  | nil =>
      rw [hrest] at hmem
      cases hmem
  | cons first rest =>
      unfold fromDelimiter at hrest
      rw [hrest] at hdelimiter
      have hends : isDelimiter first = true := by
        simpa using hdelimiter
      simp only [isDelimiter, decide_eq_true_eq] at hends
      have hcut : fromDelimiter body = first :: rest := hrest
      rw [hcut] at hmem
      rcases hends with rfl | rfl | rfl
      · simpa using hmem.symm
      · simp at hmem
      · simp at hmem

/-! ## Numbers -/

/-- A number as `str` writes it. -/
def decimal (number : ℕ) : List Char := Nat.toDigits 10 number

theorem decimal_ne_nil (number : ℕ) : decimal number ≠ [] :=
  Nat.toDigits_ne_nil

theorem isDigit_of_mem_decimal {number : ℕ} {c : Char}
    (hmem : c ∈ decimal number) : c.isDigit = true :=
  Nat.isDigit_of_mem_toDigits (by decide) (by decide) hmem

theorem digitsValue_decimal (number : ℕ) :
    PyFloat.digitsValue (decimal number) = number := by
  have hvalue := Nat.ofDigitChars_ten_toDigits (n := number)
  rw [Nat.ofDigitChars_eq_foldl] at hvalue
  simp only [Nat.mul_comm 10] at hvalue
  exact hvalue

theorem notMem_decimal {number : ℕ} {c : Char} (hc : c.isDigit = false) :
    c ∉ decimal number := by
  intro hmem
  rw [isDigit_of_mem_decimal hmem] at hc
  cases hc

theorem decimal_kept {number : ℕ} :
    ∀ c ∈ decimal number, isKept c = true := by
  intro c hmem
  have hrange := (isDigit_iff c).mp (isDigit_of_mem_decimal hmem)
  exact isKept_of_toNat (by omega)

theorem decimal_not_delimiter {number : ℕ} :
    ∀ c ∈ decimal number, isDelimiter c = false := by
  intro c hmem
  unfold isDelimiter
  rw [decide_eq_false_iff_not]
  rintro (rfl | rfl | rfl)
  · exact notMem_decimal (by decide) hmem
  · exact notMem_decimal (by decide) hmem
  · exact notMem_decimal (by decide) hmem

theorem decimal_ascii {number : ℕ} :
    ∀ c ∈ decimal number, c.toNat < 0x80 := by
  intro c hmem
  have hrange := (isDigit_iff c).mp (isDigit_of_mem_decimal hmem)
  omega

/-- A small number is well below the length that `int` refuses. -/
theorem length_decimal_le {number : ℕ} (hsmall : number < 10 ^ 9) :
    (decimal number).length ≤ 4300 := by
  have hnine : (decimal number).length ≤ 9 :=
    (Nat.length_toDigits_le_iff (by decide) (by decide)).mpr hsmall
  exact hnine.trans (by decide)

theorem toInt?_decimal {number : ℕ} (hsmall : number < 10 ^ 9) :
    toInt? (decimal number) = some (number : ℤ) := by
  rw [toInt?_of_digits (decimal_ne_nil number) (length_decimal_le hsmall)
    fun c => isDigit_of_mem_decimal, digitsValue_decimal]

/-! ## Lower case -/

/-- Only letters are lowered. -/
theorem eq_of_toLower_eq {c other : Char} (hlower : c.toLower = other)
    (hother : other.toNat < 97 ∨ 122 < other.toNat) : c = other := by
  unfold Char.toLower at hlower
  split at hlower
  next hupper =>
    have hval := congrArg (fun c : Char => c.val.toNat) hlower
    have hlow : 65 ≤ c.val.toNat := hupper.1
    have hhigh : c.val.toNat ≤ 90 := hupper.2
    have hshift : ('a'.val - 'A'.val).toNat = 32 := rfl
    have hnumber : other.toNat = other.val.toNat := rfl
    dsimp only at hval
    rw [UInt32.toNat_add, hshift] at hval
    omega
  next => exact hlower

theorem toLower_eq_iff {mark : Char} (hmark : mark.toNat < 65) (c : Char) :
    c.toLower = mark ↔ c = mark := by
  constructor
  · intro hlower
    exact eq_of_toLower_eq hlower (.inl (by omega))
  · rintro rfl
    unfold Char.toLower
    split
    next hupper =>
      have hlow : 65 ≤ c.toNat := hupper.1
      omega
    next => rfl

theorem toLower_opening_iff (c : Char) : c.toLower = '[' ↔ c = '[' := by
  constructor
  · intro hlower
    exact eq_of_toLower_eq hlower (by decide)
  · rintro rfl
    decide

theorem toLower_closing_iff (c : Char) : c.toLower = ']' ↔ c = ']' := by
  constructor
  · intro hlower
    exact eq_of_toLower_eq hlower (by decide)
  · rintro rfl
    decide

/-- Host and port stand at the same place in a lowered authority. -/
theorem hostinfo_lower (netloc : List Char) :
    hostinfo (netloc.map Char.toLower) =
      ((hostinfo netloc).1.map Char.toLower,
        (hostinfo netloc).2.map Char.toLower) := by
  have hcolon : ∀ text, partition ':' (List.map Char.toLower text) = _ :=
    partition_map (toLower_eq_iff (by decide))
  unfold hostinfo
  rw [afterLast_map (toLower_eq_iff (by decide))]
  dsimp only
  rw [partition_map toLower_opening_iff]
  dsimp only
  cases (partition '[' (afterLast '@' netloc)).2.1 with
  | false =>
      rw [if_neg Bool.false_ne_true, if_neg Bool.false_ne_true, hcolon]
  | true =>
      rw [if_pos rfl, if_pos rfl, partition_map toLower_closing_iff]
      dsimp only
      rw [hcolon]

/-! ## Hosts -/

/-- A host that is read as it is written. -/
structure PlainHost (host : List Char) : Prop where
  nonempty : host ≠ []
  kept : ∀ c ∈ host, isKept c = true
  delimiter : ∀ c ∈ host, isDelimiter c = false
  user : '@' ∉ host
  opening : '[' ∉ host
  closing : ']' ∉ host
  colon : ':' ∉ host
  lower : (partition '%' host).1.map Char.toLower = (partition '%' host).1

section Reading

variable {host : List Char} {number : ℕ} {result : ParseResult}

def hostPort (host : List Char) (number : ℕ) : List Char :=
  host ++ ':' :: decimal number

theorem notMem_hostPort {c : Char} (hhost : c ∉ host) (hc : c ≠ ':')
    (hdigit : c.isDigit = false) : c ∉ hostPort host number := by
  simp [hostPort, hhost, hc, notMem_decimal hdigit]

theorem forall_mem_hostPort {P : Char → Prop} (hhost : ∀ c ∈ host, P c)
    (hcolon : P ':') (hdigits : ∀ c ∈ decimal number, P c) :
    ∀ c ∈ hostPort host number, P c := by
  intro c hmem
  rcases List.mem_append.mp hmem with hmem | hmem
  · exact hhost c hmem
  · rcases List.mem_cons.mp hmem with rfl | hmem
    · exact hcolon
    · exact hdigits c hmem

/-- Without user and brackets, the host ends at the first colon. -/
theorem hostinfo_of_plain {netloc : List Char} (huser : '@' ∉ netloc)
    (hopening : '[' ∉ netloc) :
    hostinfo netloc =
      ((partition ':' netloc).1, (partition ':' netloc).2.2) := by
  unfold hostinfo
  rw [afterLast_of_notMem huser]
  dsimp only
  rw [partition_of_notMem hopening]
  rfl

theorem PlainHost.hostinfo (hhost : PlainHost host) :
    Url.hostinfo (hostPort host number) = (host, decimal number) := by
  rw [hostinfo_of_plain
    (notMem_hostPort hhost.user (by decide) (by decide))
    (notMem_hostPort hhost.opening (by decide) (by decide)),
    hostPort, partition_append hhost.colon]

theorem PlainHost.hostname (hhost : PlainHost host)
    (hnetloc : result.netloc = hostPort host number) :
    Url.hostname result = host := by
  unfold Url.hostname
  rw [hnetloc, hhost.hostinfo]
  dsimp only
  rw [hhost.lower]
  exact partition_append_self '%' host

theorem PlainHost.port (hhost : PlainHost host)
    (hnetloc : result.netloc = hostPort host number)
    (hnumber : number ≤ 65535) : Url.port result = some (some number) := by
  have hall : (decimal number).all Char.isDigit = true :=
    List.all_eq_true.mpr fun c => isDigit_of_mem_decimal
  have hlength : (decimal number).length ≤ 4300 :=
    length_decimal_le (by omega)
  unfold Url.port
  rw [hnetloc, hhost.hostinfo]
  dsimp only
  rw [if_neg (decimal_ne_nil number), digitsValue_decimal,
    if_pos ⟨hall, hlength, hnumber⟩]

theorem PlainHost.urlparse {scheme rest : List Char} (hhost : PlainHost host)
    (hscheme : IsScheme scheme) (hascii : ∀ c ∈ host, c.toNat < 0x80)
    (hrest : ∀ c ∈ rest.head?, isDelimiter c = true) :
    Url.urlparse (.ofList
        (scheme ++ ':' :: '/' :: '/' :: (hostPort host number ++ rest))) =
      some
        { scheme := scheme
          netloc := hostPort host number
          path := (partition '?' (partition '#' (rest.filter isKept)).1).1
          query :=
            (partition '?' (partition '#' (rest.filter isKept)).1).2.2 } :=
  urlparse_of_authority hscheme
    (forall_mem_hostPort hhost.kept (by decide) decimal_kept)
    (forall_mem_hostPort hhost.delimiter (by decide) decimal_not_delimiter)
    (notMem_hostPort hhost.opening (by decide) (by decide))
    (notMem_hostPort hhost.closing (by decide) (by decide))
    (forall_mem_hostPort hascii (by decide) decimal_ascii) hrest

theorem PlainHost.urlparse_bare {scheme : List Char} (hhost : PlainHost host)
    (hscheme : IsScheme scheme) (hascii : ∀ c ∈ host, c.toNat < 0x80) :
    Url.urlparse (.ofList
        (scheme ++ ':' :: '/' :: '/' :: hostPort host number)) =
      some
        { scheme := scheme
          netloc := hostPort host number
          path := []
          query := [] } := by
  have hrest : ∀ c ∈ ([] : List Char).head?, isDelimiter c = true := by
    simp
  have hparsed : Url.urlparse (.ofList (scheme ++ ':' :: '/' :: '/' ::
      (hostPort host number ++ []))) = _ :=
    hhost.urlparse hscheme hascii hrest
  rw [List.append_nil] at hparsed
  exact hparsed

/-- A path without a query is kept up to what `urlparse` drops. -/
theorem PlainHost.urlparse_path {scheme path : List Char}
    (hhost : PlainHost host) (hscheme : IsScheme scheme)
    (hascii : ∀ c ∈ host, c.toNat < 0x80) (hfragment : '#' ∉ path)
    (hquestion : '?' ∉ path) :
    Url.urlparse (.ofList (scheme ++ ':' :: '/' :: '/' ::
        (hostPort host number ++ '/' :: path))) =
      some
        { scheme := scheme
          netloc := hostPort host number
          path := '/' :: path.filter isKept
          query := [] } := by
  have hfilter : ('/' :: path).filter isKept = '/' :: path.filter isKept :=
    List.filter_cons_of_pos (by decide)
  have hwhole : '#' ∉ '/' :: path.filter isKept := by
    simp [hfragment]
  have hpath : '?' ∉ '/' :: path.filter isKept := by
    simp [hquestion]
  rw [hhost.urlparse hscheme hascii (by simp [isDelimiter]), hfilter,
    partition_of_notMem hwhole, partition_of_notMem hpath]

/-- A path before a query is kept as it is. -/
theorem PlainHost.urlparse_query {scheme path query : List Char}
    (hhost : PlainHost host) (hscheme : IsScheme scheme)
    (hascii : ∀ c ∈ host, c.toNat < 0x80)
    (hkept : ∀ c ∈ path, isKept c = true) (hfragment : '#' ∉ path)
    (hquestion : '?' ∉ path) :
    Url.urlparse (.ofList (scheme ++ ':' :: '/' :: '/' ::
        (hostPort host number ++ '/' :: (path ++ '?' :: query)))) =
      some
        { scheme := scheme
          netloc := hostPort host number
          path := '/' :: path
          query := (partition '#' (query.filter isKept)).1 } := by
  have hfilter : ('/' :: (path ++ '?' :: query)).filter isKept =
      ('/' :: (path ++ ['?'])) ++ query.filter isKept := by
    rw [List.filter_cons_of_pos (by decide), List.filter_append,
      List.filter_eq_self.mpr hkept, List.filter_cons_of_pos (by decide)]
    simp
  have hhead : '#' ∉ '/' :: (path ++ ['?']) := by
    simp [hfragment]
  have hpath : '?' ∉ '/' :: path := by
    simp [hquestion]
  have hcut : (partition '#' (('/' :: (path ++ '?' :: query)).filter
      isKept)).1 =
        ('/' :: path) ++ '?' :: (partition '#' (query.filter isKept)).1 := by
    rw [hfilter, partition_fst_append hhead]
    simp
  rw [hhost.urlparse hscheme hascii (by simp [isDelimiter]), hcut,
    partition_append hpath]

/-! ## Only plain hosts come back -/

theorem mem_of_mem_hostinfo {c : Char} {netloc : List Char}
    (hmem : c ∈ (Url.hostinfo netloc).1) : c ∈ netloc ∧ c ≠ '@' := by
  apply mem_of_mem_afterLast
  unfold Url.hostinfo at hmem
  dsimp only at hmem
  split at hmem
  · exact mem_of_mem_partition (.inr (mem_of_mem_partition (.inl hmem)))
  · exact mem_of_mem_partition (.inl hmem)

theorem closing_notMem_hostinfo {netloc : List Char} (huser : '@' ∉ netloc)
    (hopens : '[' ∈ netloc) : ']' ∉ (Url.hostinfo netloc).1 := by
  unfold Url.hostinfo
  rw [afterLast_of_notMem huser]
  obtain ⟨head, tail, rfl, hhead⟩ := List.eq_append_cons_of_mem hopens
  dsimp only
  rw [partition_append hhead]
  exact notMem_partition_fst ']' tail

/-- A character of the host name comes from the authority, lowered or not. -/
theorem mem_of_mem_hostname {c : Char} (hmem : c ∈ Url.hostname result) :
    ∃ original ∈ (Url.hostinfo result.netloc).1,
      c = original ∨ c = original.toLower := by
  unfold Url.hostname at hmem
  dsimp only at hmem
  rcases List.mem_append.mp hmem with hlowered | hzone
  · obtain ⟨original, horiginal, rfl⟩ := List.mem_map.mp hlowered
    exact ⟨original, mem_of_mem_partition (.inl horiginal), .inr rfl⟩
  · split at hzone
    next hfound =>
      have hwhole :=
        partition_append_self '%' (Url.hostinfo result.netloc).1
      rw [if_pos hfound] at hwhole
      refine ⟨c, ?_, .inl rfl⟩
      rw [← hwhole]
      exact List.mem_append_right _ hzone
    next => cases hzone

/-- What is no letter is in the host name only if it is in the authority. -/
theorem mem_hostinfo_of_mem_hostname {c : Char}
    (hmem : c ∈ Url.hostname result)
    (hc : c.toNat < 97 ∨ 122 < c.toNat) :
    c ∈ (Url.hostinfo result.netloc).1 := by
  obtain ⟨original, horiginal, heq | heq⟩ := mem_of_mem_hostname hmem
  · rwa [heq]
  · rwa [← eq_of_toLower_eq heq.symm hc]

theorem isDelimiter_toNat {c : Char} (hc : isDelimiter c = true) :
    c.toNat < 97 := by
  simp only [isDelimiter, decide_eq_true_eq] at hc
  rcases hc with rfl | rfl | rfl <;> decide

theorem not_isKept_toNat {c : Char} (hc : isKept c = false) :
    c.toNat < 97 := by
  have hspace : c = '\t' ∨ c = '\r' ∨ c = '\n' := by
    by_contra hnot
    simp only [not_or] at hnot
    simp [isKept, hnot] at hc
  rcases hspace with rfl | rfl | rfl <;> decide

theorem of_mem_cutAuthority {body : List Char} {c : Char}
    (hmem : c ∈ cutAuthority body) :
    isKept c = true ∧ isDelimiter c = false := by
  have hcontinues := List.mem_takeWhile_imp hmem
  refine ⟨?_, by simpa using hcontinues⟩
  exact (List.mem_filter.mp ((List.takeWhile_sublist _).subset hmem)).2

/-- What ends or leaves an authority is not in its host name. -/
theorem of_mem_hostname {body : List Char} {c : Char}
    (hnetloc : result.netloc = cutAuthority body)
    (hmem : c ∈ Url.hostname result) :
    isKept c = true ∧ isDelimiter c = false := by
  have hcut : c.toNat < 97 → c ∈ cutAuthority body := by
    intro hc
    rw [← hnetloc]
    exact (mem_of_mem_hostinfo (mem_hostinfo_of_mem_hostname hmem (.inl hc))).1
  constructor
  · by_contra hnot
    have hdropped := Bool.eq_false_iff.mpr hnot
    exact hnot (of_mem_cutAuthority (hcut (not_isKept_toNat hdropped))).1
  · by_contra hnot
    have hends := (Bool.not_eq_false _).mp hnot
    exact hnot (of_mem_cutAuthority (hcut (isDelimiter_toNat hends))).2

/-- A host name that comes back was not cut. -/
theorem cutAuthority_of_hostname {rest : List Char}
    (hrest : ∀ c ∈ rest.head?, isDelimiter c = true)
    (hnetloc : result.netloc = cutAuthority (hostPort host number ++ rest))
    (hname : Url.hostname result = host) :
    result.netloc = hostPort host number := by
  have hchars : ∀ c ∈ host, isKept c = true ∧ isDelimiter c = false := by
    intro c hmem
    rw [← hname] at hmem
    exact of_mem_hostname hnetloc hmem
  have hfilter : (hostPort host number ++ rest).filter isKept =
      hostPort host number ++ rest.filter isKept := by
    rw [List.filter_append, List.filter_eq_self.mpr
      (forall_mem_hostPort (fun c hmem => (hchars c hmem).1) (by decide)
        decimal_kept)]
  rw [hnetloc, cutAuthority, hfilter]
  exact (takeWhile_authority
    (forall_mem_hostPort (fun c hmem => (hchars c hmem).2) (by decide)
      decimal_not_delimiter) (head_filter_kept hrest)).1

/-- A host that is its own host name is plain, if its brackets match. -/
theorem plainHost_of_netloc
    (hkept : ∀ c ∈ host, isKept c = true ∧ isDelimiter c = false)
    (hnetloc : result.netloc = hostPort host number)
    (hbrackets : result.netloc.contains '[' = result.netloc.contains ']')
    (hname : Url.hostname result = host) (hnonempty : host ≠ []) :
    PlainHost host := by
  have hinfo : ∀ c ∈ host, c.toNat < 97 ∨ 122 < c.toNat →
      c ∈ (Url.hostinfo result.netloc).1 := by
    intro c hmem hc
    rw [← hname] at hmem
    exact mem_hostinfo_of_mem_hostname hmem hc
  have huser : '@' ∉ host := fun hmem =>
    (mem_of_mem_hostinfo (hinfo '@' hmem (by decide))).2 rfl
  have huser' : '@' ∉ result.netloc := by
    rw [hnetloc]
    exact notMem_hostPort huser (by decide) (by decide)
  -- A bracketed host would have no closing bracket.
  have hopening : '[' ∉ result.netloc := by
    intro hopens
    have hcloses : ']' ∈ result.netloc := by
      simpa [hopens] using hbrackets
    rw [hnetloc] at hcloses
    have hclosing : ']' ∈ host := by
      by_contra hnot
      exact notMem_hostPort hnot (by decide) (by decide) hcloses
    exact closing_notMem_hostinfo huser' hopens (hinfo ']' hclosing (by decide))
  have hclosing : ']' ∉ result.netloc := by
    simpa [hopening] using hbrackets
  have hplain := hostinfo_of_plain huser' hopening
  have hcolon : ':' ∉ host := by
    intro hmem
    have hbefore := hinfo ':' hmem (by decide)
    rw [hplain] at hbefore
    exact notMem_partition_fst ':' result.netloc hbefore
  have hhost : (partition ':' result.netloc).1 = host := by
    rw [hnetloc, hostPort, partition_append hcolon]
  have hself := partition_append_self '%' host
  unfold Url.hostname at hname
  rw [hplain] at hname
  dsimp only at hname
  rw [hhost] at hname
  rw [hnetloc] at hopening hclosing
  exact
    { nonempty := hnonempty
      kept := fun c hmem => (hkept c hmem).1
      delimiter := fun c hmem => (hkept c hmem).2
      user := huser
      opening := fun hmem => hopening (List.mem_append_left _ hmem)
      closing := fun hmem => hclosing (List.mem_append_left _ hmem)
      colon := hcolon
      lower := List.append_cancel_right (hname.trans hself.symm) }

theorem plainHost_of_hostname {scheme rest : List Char}
    (hscheme : IsScheme scheme)
    (hrest : ∀ c ∈ rest.head?, isDelimiter c = true)
    (hparsed : Url.urlparse (.ofList
      (scheme ++ ':' :: '/' :: '/' :: (hostPort host number ++ rest))) =
        some result)
    (hname : Url.hostname result = host) (hnonempty : host ≠ []) :
    PlainHost host := by
  rw [urlparse_of_scheme hscheme] at hparsed
  dsimp only at hparsed
  split at hparsed
  · cases hparsed
  next hbrackets =>
  split at hparsed
  · cases hparsed
  split at hparsed
  · cases hparsed
  obtain rfl := Option.some.inj hparsed
  have hnetloc := cutAuthority_of_hostname hrest rfl hname
  have hkept : ∀ c ∈ host, isKept c = true ∧ isDelimiter c = false := by
    intro c hmem
    rw [← hname] at hmem
    exact of_mem_hostname rfl hmem
  exact plainHost_of_netloc hkept hnetloc (not_not.mp hbrackets) hname hnonempty

end Reading

end Url
end DessMonitor
