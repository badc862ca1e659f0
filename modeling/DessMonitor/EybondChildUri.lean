import DessMonitor.EybondChildren
import DessMonitor.EybondManagerModel
import DessMonitor.EybondUriFields
import DessMonitor.Foundation.UrlAuthority

/-!
# Reading a child's URI

A child's URI carries the product number as the dongle sent it, and it is read
back as a URL.  The number comes back exactly if it has nothing that a query
reads as something else.
-/

namespace DessMonitor
namespace Eybond

open PyString

/-- `_parse_pn_from_uri`; the outer `none` is `ValueError`. -/
def parsePnFromUri (device : String) : Option (Option String) := do
  let parsed ← Url.urlparse device
  let pn := strip (.ofList ((Url.queryValue parsed.query "pn").getD []))
  some (if pn = "" then none else some pn)

/-- A product number that a query keeps. -/
structure CleanPn (pn : List Char) : Prop where
  kept : ∀ c ∈ pn, Url.isKept c = true
  fragment : '#' ∉ pn
  ampersand : '&' ∉ pn
  plus : '+' ∉ pn
  escape : Url.hasEscape pn = false
  stripped : stripChars isSpace pn = pn

namespace DongleRecord

/-- What the reader of a child's URI is to get back. -/
def RoutesBack (record : DongleRecord) (key : ListenerKey)
    (broadcast : String) (announceIp : Option String) : Prop :=
  parsePnFromUri (record.childUri key broadcast announceIp) =
      some (some record.pn) ∧
    parseEybondUri (record.childUri key broadcast announceIp) =
      some ⟨key, record.devaddr, broadcast, announceIp⟩

/-- A learned dongle on an ASCII host and the addresses of its announcer. -/
structure ChildAddress (record : DongleRecord) (key : ListenerKey)
    (broadcast : String) (announceIp : Option String) : Prop where
  pn : record.pn ≠ ""
  devaddr : 1 ≤ record.devaddr ∧ record.devaddr ≤ 255
  host : ∀ c ∈ key.1.toList, c.toNat < 0x80
  port : 1 ≤ key.2 ∧ key.2 ≤ 65535
  broadcast : DottedText broadcast.toList
  announce : ∀ announce, announceIp = some announce →
    DottedText announce.toList

end DongleRecord

/-! ## The parts of the URI -/

theorem CleanPn.plainField {pn : List Char} (hpn : CleanPn pn)
    (hne : pn ≠ []) : Url.PlainField ("pn".toList, pn) where
  name := plainName_pn
  nonempty := hne
  ampersand := hpn.ampersand
  read := Url.unquotePlus_of_plain hpn.escape hpn.plus

namespace DongleRecord

def fields (record : DongleRecord) (broadcast : String)
    (announceIp : Option String) : List (List Char × List Char) :=
  ("pn".toList, record.pn.toList) ::
    addressFields broadcast (announceIp.getD "")

theorem isScheme_childScheme (protocol : Option String) :
    Url.IsScheme (childScheme protocol).toList := by
  unfold childScheme
  split_ifs
  · exact ⟨by decide, by decide, by decide, by decide⟩
  · exact ⟨by decide, by decide, by decide, by decide⟩
  · exact ⟨by decide, by decide, by decide, by decide⟩

section Uri

variable {record : DongleRecord} {key : ListenerKey} {broadcast : String}
variable {announceIp : Option String}

/-- The query of a child's URI as `urlparse` leaves it. -/
def readQuery (record : DongleRecord) (broadcast : String)
    (announceIp : Option String) : List Char :=
  (partition '#' ((Url.renderQuery
    (record.fields broadcast announceIp)).filter Url.isKept)).1

theorem childUri_eq (hdevaddr : 0 ≤ record.devaddr) :
    record.childUri key broadcast announceIp =
      .ofList ((childScheme record.protocol).toList ++ ':' :: '/' :: '/' ::
        (Url.hostPort key.1.toList key.2 ++
          '/' :: (Url.decimal record.devaddr.toNat ++
            '?' :: Url.renderQuery (record.fields broadcast announceIp)))) := by
  obtain ⟨number, hnumber⟩ := Int.eq_ofNat_of_zero_le hdevaddr
  have hdigits : toString (number : ℤ) = .ofList (Url.decimal number) :=
    Nat.toString_eq_ofList_toDigits
  have hport : toString key.2 = .ofList (Url.decimal key.2) :=
    Nat.toString_eq_ofList_toDigits
  apply String.toList_inj.mp
  unfold childUri fields addressFields optionalField Url.hostPort
  rw [hnumber, hdigits, hport]
  by_cases hempty : broadcast = ""
  · cases announceIp with
    | none => simp [hempty, Url.renderQuery, Url.renderField]
    | some announce =>
        by_cases hannounce : announce = "" <;>
          simp [hempty, hannounce, Url.renderQuery, Url.renderField]
  by_cases hdefault : broadcast = defaultBroadcast
  · cases announceIp with
    | none => simp [hdefault, Url.renderQuery, Url.renderField]
    | some announce =>
        by_cases hannounce : announce = "" <;>
          simp [hdefault, hannounce, Url.renderQuery, Url.renderField]
  · cases announceIp with
    | none => simp [hempty, hdefault, Url.renderQuery, Url.renderField]
    | some announce =>
        by_cases hannounce : announce = "" <;>
          simp [hempty, hdefault, hannounce, Url.renderQuery, Url.renderField]

theorem ChildAddress.announce_dotted
    (haddress : record.ChildAddress key broadcast announceIp)
    (hgiven : announceIp.getD "" ≠ "") :
    DottedText (announceIp.getD "").toList := by
  cases announceIp with
  | none => exact absurd rfl hgiven
  | some announce => exact haddress.announce announce rfl

theorem ChildAddress.urlparse
    (haddress : record.ChildAddress key broadcast announceIp)
    (hhost : Url.PlainHost key.1.toList) :
    Url.urlparse (record.childUri key broadcast announceIp) =
      some
        { scheme := (childScheme record.protocol).toList
          netloc := Url.hostPort key.1.toList key.2
          path := '/' :: Url.decimal record.devaddr.toNat
          query := record.readQuery broadcast announceIp } := by
  have hdevaddr : 0 ≤ record.devaddr := by
    have hrange := haddress.devaddr
    omega
  rw [childUri_eq hdevaddr]
  exact hhost.urlparse_query (isScheme_childScheme record.protocol)
    haddress.host Url.decimal_kept (Url.notMem_decimal (by decide))
    (Url.notMem_decimal (by decide))

/-- A fragment in the product number cuts the fields behind it. -/
theorem ChildAddress.readQuery_eq
    (haddress : record.ChildAddress key broadcast announceIp) :
    record.readQuery broadcast announceIp =
      "pn".toList ++
        '=' :: (partition '#' (record.pn.toList.filter Url.isKept)).1 ++
          if '#' ∈ record.pn.toList.filter Url.isKept then []
          else Url.renderTail
            (addressFields broadcast (announceIp.getD "")) := by
  have htail := addressFields_kept haddress.broadcast haddress.announce_dotted
  have hkept := List.filter_eq_self.mpr fun c hmem => (htail c hmem).1
  have hclean := fun hmem => (htail '#' hmem).2 rfl
  have hfilter : (Url.renderQuery
      (record.fields broadcast announceIp)).filter Url.isKept =
        ("pn".toList ++ ['=']) ++ (record.pn.toList.filter Url.isKept ++
          Url.renderTail
            (addressFields broadcast (announceIp.getD ""))) := by
    rw [fields, Url.renderQuery_cons, Url.renderField, List.filter_append,
      hkept, List.filter_append, List.filter_cons_of_pos (by decide)]
    simp [Url.isKept]
  rw [readQuery, hfilter, partition_fst_append (by decide)]
  by_cases hfragment : '#' ∈ record.pn.toList.filter Url.isKept
  · rw [if_pos hfragment, partition_fst_append_of_mem hfragment]
    simp
  · rw [if_neg hfragment, partition_fst_append hfragment,
      partition_of_notMem hclean, partition_of_notMem hfragment]
    simp

/-! ## A clean child is read back -/

theorem ChildAddress.plain_fields
    (haddress : record.ChildAddress key broadcast announceIp)
    (hpn : CleanPn record.pn.toList) :
    ∀ field ∈ record.fields broadcast announceIp, Url.PlainField field := by
  have hnonempty : record.pn.toList ≠ [] := by
    simpa using haddress.pn
  exact List.forall_mem_cons.mpr ⟨hpn.plainField hnonempty,
    plain_addressFields haddress.broadcast haddress.announce_dotted⟩

theorem ChildAddress.readQuery_of_clean
    (haddress : record.ChildAddress key broadcast announceIp)
    (hpn : CleanPn record.pn.toList) :
    record.readQuery broadcast announceIp =
      Url.renderQuery (record.fields broadcast announceIp) := by
  rw [haddress.readQuery_eq, List.filter_eq_self.mpr hpn.kept,
    if_neg hpn.fragment, partition_of_notMem hpn.fragment, fields,
    Url.renderQuery_cons]
  rfl

theorem ChildAddress.queryValue
    (haddress : record.ChildAddress key broadcast announceIp)
    (hpn : CleanPn record.pn.toList) (name : String) :
    Url.queryValue (record.readQuery broadcast announceIp) name =
      Url.fieldValue (record.fields broadcast announceIp) name := by
  rw [haddress.readQuery_of_clean hpn,
    Url.queryValue_renderQuery (haddress.plain_fields hpn)]

theorem ChildAddress.parsePn_of_clean
    (haddress : record.ChildAddress key broadcast announceIp)
    (hhost : Url.PlainHost key.1.toList) (hpn : CleanPn record.pn.toList) :
    parsePnFromUri (record.childUri key broadcast announceIp) =
      some (some record.pn) := by
  have hvalue : Url.queryValue (record.readQuery broadcast announceIp) "pn" =
      some record.pn.toList := by
    rw [haddress.queryValue hpn, fields]
    exact Url.fieldValue_cons_same record.pn.toList
  have hstrip : strip record.pn = record.pn := by
    unfold strip
    rw [hpn.stripped, String.ofList_toList]
  unfold parsePnFromUri
  rw [haddress.urlparse hhost]
  simp only [Option.bind_eq_bind, Option.bind_some]
  rw [hvalue, Option.getD_some, String.ofList_toList, hstrip,
    if_neg haddress.pn]

theorem ChildAddress.broadcast_of_clean
    (haddress : record.ChildAddress key broadcast announceIp)
    (hpn : CleanPn record.pn.toList) :
    (match Url.queryValue
        (record.readQuery broadcast announceIp) "broadcast" with
      | none => defaultBroadcast
      | some text => .ofList text) = broadcast := by
  have hgiven : broadcast ≠ "" := by
    simpa using haddress.broadcast.nonempty
  have hread : ((Url.fieldValue
      (addressFields broadcast (announceIp.getD "")) "broadcast").map
        String.ofList).getD defaultBroadcast = broadcast :=
    broadcast_read hgiven
  rw [haddress.queryValue hpn, fields,
    Url.fieldValue_cons_other _ (by decide)]
  cases hvalue : Url.fieldValue
      (addressFields broadcast (announceIp.getD "")) "broadcast" with
  | none =>
      rw [hvalue] at hread
      exact hread
  | some text =>
      rw [hvalue] at hread
      exact hread

theorem ChildAddress.announce_of_clean
    (haddress : record.ChildAddress key broadcast announceIp)
    (hpn : CleanPn record.pn.toList) :
    strip (.ofList ((Url.queryValue
      (record.readQuery broadcast announceIp) "announce").getD [])) =
        announceIp.getD "" := by
  rw [haddress.queryValue hpn, fields,
    Url.fieldValue_cons_other _ (by decide), fieldValue_announce]
  by_cases hempty : announceIp.getD "" = ""
  · rw [if_pos hempty, hempty]
    rfl
  · unfold strip
    rw [if_neg hempty, Option.getD_some, String.toList_ofList,
      (haddress.announce_dotted hempty).stripped, String.ofList_toList]

theorem ChildAddress.announceIp_eq
    (haddress : record.ChildAddress key broadcast announceIp) :
    (if announceIp.getD "" = "" then none else some (announceIp.getD "")) =
      announceIp := by
  cases announceIp with
  | none => rfl
  | some announce =>
      have hne : announce ≠ "" := by
        simpa using (haddress.announce announce rfl).nonempty
      exact if_neg hne

theorem ChildAddress.devaddr_read
    (haddress : record.ChildAddress key broadcast announceIp) :
    toInt? (Url.decimal record.devaddr.toNat) = some record.devaddr := by
  have hdevaddr := haddress.devaddr
  have hnumber : ((record.devaddr.toNat : ℕ) : ℤ) = record.devaddr := by
    omega
  rw [Url.toInt?_decimal (by omega), hnumber]

theorem ChildAddress.parseEybond_of_clean
    (haddress : record.ChildAddress key broadcast announceIp)
    (hhost : Url.PlainHost key.1.toList) (hpn : CleanPn record.pn.toList) :
    parseEybondUri (record.childUri key broadcast announceIp) =
      some ⟨key, record.devaddr, broadcast, announceIp⟩ := by
  have hport := haddress.port
  have hpath : ('/' :: Url.decimal record.devaddr.toNat).dropWhile (· = '/') =
      Url.decimal record.devaddr.toNat :=
    dropWhile_eq_cons (Url.notMem_decimal (by decide))
  have hkey : (if key.1.toList = [] then "0.0.0.0"
      else String.ofList key.1.toList) = key.1 := by
    rw [if_neg hhost.nonempty, String.ofList_toList]
  have hlisten : (if key.2 = 0 then 8899 else key.2) = key.2 :=
    if_neg (by omega)
  unfold parseEybondUri
  rw [haddress.urlparse hhost]
  simp only [Option.bind_eq_bind, Option.bind_some]
  rw [hhost.hostname rfl, hhost.port rfl hport.2]
  simp only [Option.bind_some]
  rw [if_neg (List.cons_ne_nil _ _), hpath, if_neg (Url.decimal_ne_nil _),
    haddress.devaddr_read, Option.getD_some, hkey, hlisten,
    haddress.announce_of_clean hpn, haddress.announceIp_eq]
  exact congrArg
    (fun text => some (EybondUri.mk key record.devaddr text announceIp))
    (haddress.broadcast_of_clean hpn)

/-! ## Only a clean child is read back -/

theorem ChildAddress.no_pn
    (haddress : record.ChildAddress key broadcast announceIp) :
    Url.queryValue (Url.renderQuery
      (addressFields broadcast (announceIp.getD ""))) "pn" = none := by
  rw [Url.queryValue_renderQuery
    (plain_addressFields haddress.broadcast haddress.announce_dotted)]
  apply Url.fieldValue_of_other
  intro field hmem
  have hname :=
    (mem_addressFields haddress.broadcast haddress.announce_dotted hmem).1
  rcases hname with hname | hname
  · rw [hname]
    decide
  · rw [hname]
    decide

/-- Only the text of the number decides what is read as the number. -/
theorem ChildAddress.queryValue_pn
    (haddress : record.ChildAddress key broadcast announceIp) :
    Url.queryValue (record.readQuery broadcast announceIp) "pn" =
      Url.queryValue ("pn".toList ++
        '=' :: (partition '#' (record.pn.toList.filter Url.isKept)).1)
          "pn" := by
  rw [haddress.readQuery_eq]
  apply Url.queryValue_append_tail
  split_ifs with hfragment
  · exact .inl rfl
  · unfold Url.renderTail
    split_ifs with hempty
    · exact .inl rfl
    · exact .inr ⟨_, rfl, haddress.no_pn⟩

/-- A number that comes back has lost no character on the way. -/
theorem cleanPn_of_value {pn value : List Char}
    (hvalue : Url.queryValue ("pn".toList ++
      '=' :: (partition '#' (pn.filter Url.isKept)).1) "pn" = some value)
    (hstrip : stripChars isSpace value = pn) : CleanPn pn := by
  generalize htext : (partition '#' (pn.filter Url.isKept)).1 = text at hvalue
  have hsublist : text.Sublist (pn.filter Url.isKept) := by
    rw [← htext, partition_fst]
    exact List.takeWhile_sublist _
  have hshort := (hsublist.trans List.filter_sublist).length_le
  have hstripped := (stripChars_sublist isSpace value).length_le
  rw [hstrip] at hstripped
  obtain ⟨hampersand, rfl⟩ :=
    plainName_pn.text_of_length hvalue (hshort.trans hstripped)
  have hdecoded := Url.unquotePlus_length_le text
  -- All five lengths agree, so no step has changed the text.
  obtain rfl : text = pn :=
    (hsublist.trans List.filter_sublist).eq_of_length (by omega)
  have hkept : text.filter Url.isKept = text :=
    List.filter_sublist.eq_of_length_le hsublist.length_le
  have hsame : Url.unquotePlus text = text := by
    have hlength : (Url.unquotePlus text).length ≤
        (stripChars isSpace (Url.unquotePlus text)).length := by
      rw [hstrip]
      exact hdecoded
    have hall :=
      (stripChars_sublist isSpace (Url.unquotePlus text)).eq_of_length_le hlength
    rw [← hall, hstrip]
  obtain ⟨hescape, hplus⟩ := Url.unquotePlus_of_length hstripped
  refine ⟨List.filter_eq_self.mp hkept, ?_, hampersand, ?_, hescape, ?_⟩
  · rw [← htext]
    exact notMem_partition_fst '#' _
  · exact (Url.map_plusToSpace_eq_self_iff text).mp (hplus.symm.trans hsame)
  · rw [hsame] at hstrip
    exact hstrip

/-- A product number that comes back was read in full. -/
theorem ChildAddress.clean_of_parsePn
    (haddress : record.ChildAddress key broadcast announceIp)
    (hhost : Url.PlainHost key.1.toList)
    (hread : parsePnFromUri (record.childUri key broadcast announceIp) =
      some (some record.pn)) : CleanPn record.pn.toList := by
  unfold parsePnFromUri at hread
  rw [haddress.urlparse hhost] at hread
  simp only [Option.bind_eq_bind, Option.bind_some, Option.some.injEq] at hread
  split at hread
  · cases hread
  have hstrip := congrArg String.toList (Option.some.inj hread)
  unfold strip at hstrip
  rw [String.toList_ofList, String.toList_ofList] at hstrip
  cases hvalue : Url.queryValue (record.readQuery broadcast announceIp) "pn" with
  | none =>
      rw [hvalue] at hstrip
      exact absurd (String.toList_inj.mp hstrip.symm) haddress.pn
  | some value =>
      rw [hvalue, Option.getD_some] at hstrip
      rw [haddress.queryValue_pn] at hvalue
      exact cleanPn_of_value hvalue hstrip

/-- A host that comes back was read in full. -/
theorem ChildAddress.host_of_parseEybond
    (haddress : record.ChildAddress key broadcast announceIp)
    (hread : parseEybondUri (record.childUri key broadcast announceIp) =
      some ⟨key, record.devaddr, broadcast, announceIp⟩) :
    Url.PlainHost key.1.toList := by
  have hdevaddr : 0 ≤ record.devaddr := by
    have hrange := haddress.devaddr
    omega
  unfold parseEybondUri at hread
  cases hparsed : Url.urlparse (record.childUri key broadcast announceIp) with
  | none =>
      rw [hparsed] at hread
      cases hread
  | some result =>
      rw [hparsed] at hread
      simp only [Option.bind_eq_bind, Option.bind_some] at hread
      obtain ⟨port, -, hfields⟩ := Option.bind_eq_some_iff.mp hread
      have hkey := congrArg (fun uri => uri.key.1) (Option.some.inj hfields)
      dsimp only at hkey
      split at hkey
      next =>
        rw [← hkey]
        exact ⟨by decide, forall_mem_of_all (by decide),
          forall_mem_of_all (by decide), by decide, by decide, by decide,
          by decide, by decide⟩
      next hne =>
        have hname : Url.hostname result = key.1.toList := by
          rw [← hkey, String.toList_ofList]
        rw [childUri_eq hdevaddr] at hparsed
        rw [hname] at hne
        exact Url.plainHost_of_hostname (isScheme_childScheme record.protocol)
          (by simp [Url.isDelimiter]) hparsed hname hne

/-- A child's URI leads back to its dongle exactly if number and host are
read as they are written. -/
theorem routesBack_iff
    (haddress : record.ChildAddress key broadcast announceIp) :
    record.RoutesBack key broadcast announceIp ↔
      CleanPn record.pn.toList ∧ Url.PlainHost key.1.toList := by
  constructor
  · rintro ⟨hpn, hrest⟩
    have hhost := haddress.host_of_parseEybond hrest
    exact ⟨haddress.clean_of_parsePn hhost hpn, hhost⟩
  · rintro ⟨hpn, hhost⟩
    exact ⟨haddress.parsePn_of_clean hhost hpn,
      haddress.parseEybond_of_clean hhost hpn⟩

end Uri

/-! ## A clean and an unclean number -/

def learned (payload : Bytes) : DongleRecord :=
  { unconfigured (heartbeatPn payload) with
    enabled := true
    protocol := some protocolPi18 }

def listenKey : ListenerKey := ("0.0.0.0", 8899)

theorem learned_address (payload : Bytes) (hpn : heartbeatPn payload ≠ "") :
    (learned payload).ChildAddress listenKey "192.168.1.255"
      (some "192.168.1.10") where
  pn := hpn
  devaddr := ⟨le_refl 1, (by decide : (1 : ℤ) ≤ 255)⟩
  host := forall_mem_of_all (by decide)
  port := ⟨by decide, by decide⟩
  broadcast := ⟨by decide, forall_mem_of_all (by decide)⟩
  announce := by
    rintro announce ⟨⟩
    exact ⟨by decide, forall_mem_of_all (by decide)⟩

def cleanPayload : Bytes :=
  "E5000020000001".toList.map fun c => c.toNat.toUInt8

/-- A plus sign in the number is read as a space. -/
def plusPayload : Bytes :=
  "E5000+20000001".toList.map fun c => c.toNat.toUInt8

theorem routesBack_iff_clean :
    (learned cleanPayload).RoutesBack listenKey "192.168.1.255"
        (some "192.168.1.10") ↔
      CleanPn (learned cleanPayload).pn.toList ∧
        Url.PlainHost listenKey.1.toList :=
  routesBack_iff (learned_address cleanPayload (by decide +kernel))

theorem not_routesBack_of_learned :
    ¬ ∀ (payload : Bytes) (record : DongleRecord) (key : ListenerKey)
        (broadcast : String) (announceIp : Option String),
      record.pn = heartbeatPn payload →
        record.ChildAddress key broadcast announceIp →
          record.RoutesBack key broadcast announceIp := by
  intro hall
  have haddress := learned_address plusPayload (by decide +kernel)
  have hback := hall plusPayload (learned plusPayload) listenKey
    "192.168.1.255" (some "192.168.1.10") rfl haddress
  have hread : parsePnFromUri ((learned plusPayload).childUri listenKey
      "192.168.1.255" (some "192.168.1.10")) =
        some (some "E5000 20000001") := by
    decide +kernel
  have hsame := Option.some.inj (hread.symm.trans hback.1)
  exact absurd hsame (by decide +kernel)

end DongleRecord

end Eybond
end DessMonitor
