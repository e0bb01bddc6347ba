import WlanAdmin.Proofs.Domain.Ascii
import WlanAdmin.Proofs.Text.Replacement
import WlanAdmin.Proofs.Url.Endpoint
import WlanAdmin.Proofs.Url.Ip
import WlanAdmin.Url.Join

/-!
# WlanAdmin.Proofs.Url.Authority

The host and port of a URL are read back from its authority, by whatever scheme. So the endpoints of
the authority of a web URL are URLs, of the same host and port.

* `Host.Stands` : what is known of the hosts of special URLs.
* `readHost_write` : such a host is read back.
* `readAuthority_write` : and with it its port.
* `IsWeb.standing` : the URLs that are read of texts and of redirects have such hosts.
* `endpoint_authority` : the authority of a web URL forms URLs.
-/

namespace WlanAdmin
namespace Url

/-! ## Texts that percent-decoding keeps -/

theorem percentDecode_cons {b : UInt8} (h : b ≠ 0x25) (rest : Bytes) :
    percentDecode (b :: rest) = b :: percentDecode rest := by
  rw [percentDecode]
  rintro _ _ _ rfl
  exact absurd rfl h

theorem percentDecode_eq {octets : Bytes} (h : ∀ b ∈ octets, b ≠ 0x25) :
    percentDecode octets = octets := by
  induction octets with
  | nil => rfl
  | cons b octets ih =>
    obtain ⟨ne, h⟩ := List.forall_mem_cons.mp h
    rw [percentDecode_cons ne, ih h]

theorem utf8_ascii {text : List Char} (ascii : ∀ c ∈ text, c.toNat < 0x80) :
    utf8 (String.ofList text) = text.map fun c => UInt8.ofNat c.toNat := by
  rw [utf8_ofList]
  induction text with
  | nil => rfl
  | cons c text ih =>
    obtain ⟨of_c, ascii⟩ := List.forall_mem_cons.mp ascii
    rw [List.flatMap_cons, utf8Char_ascii of_c, ih ascii]
    rfl

/-- An ASCII text without percent signs is kept. -/
theorem decoded_ascii {text : List Char} (ascii : ∀ c ∈ text, c.toNat < 0x80)
    (no_percent : '%' ∉ text) :
    decodeReplacing (percentDecode (utf8 (String.ofList text))) = text := by
  rw [percentDecode_eq, decodeReplacing_utf8, String.toList_ofList]
  intro b mem eq
  rw [utf8_ascii ascii] at mem
  obtain ⟨c, inside, rfl⟩ := List.mem_map.mp mem
  have percent : ∀ c : Char, c.toNat < 0x80 → UInt8.ofNat c.toNat = 0x25 → c = '%' :=
    forall_ascii (by decide)
  exact no_percent (percent c (ascii c inside) eq ▸ inside)

/-! ## Hosts -/

/-- What is known of the host of a special URL: a name is in its ASCII form, and does not read as
an address. -/
def Host.Stands : Host → Prop
  | .empty => False
  | .domain name => Domain.toAscii name.toList = some name.toList ∧ name.toList ≠ [] ∧
      endsInNumber name.toList = false
  | .ipv4 _ | .ipv6 _ => True

/-- Whether a character can stand anywhere in an authority without a user. -/
def isInside (c : Char) : Bool := c != '@' && !endsAuthority true c && kept c

theorem of_isInside {c : Char} (h : isInside c = true) :
    c ≠ '@' ∧ endsAuthority true c = false ∧ kept c = true := by
  simpa [isInside, and_assoc] using h

/-- Whether a character can stand in a host that is no address in brackets. -/
def isPlain (c : Char) : Bool := isInside c && c != ':' && c != '[' && c != ']'

theorem isPlain_of_isNameChar {c : Char} (h : Domain.IsNameChar c) :
    isPlain c = true ∧ c ≠ '%' :=
  forall_ascii (P := fun c => Domain.IsNameChar c → isPlain c = true ∧ c ≠ '%') (by decide) c
    h.ascii h

theorem isPlain_digitChar : ∀ d < 16, isPlain d.digitChar = true := by decide

/-- A host that is no address in brackets is read from its ASCII form. -/
theorem readHost_of_toAscii {text : List Char} (ascii : Domain.toAscii text = some text)
    (nonempty : text ≠ []) :
    readHost text =
      if endsInNumber text then (readIpv4 text).map .ipv4
      else some (.domain (String.ofList text)) := by
  have chars := Domain.isNameChar_of_mem_toAscii ascii
  have decoded := decoded_ascii (fun c mem => (chars c mem).ascii)
    fun mem => (isPlain_of_isNameChar (chars '%' mem)).2 rfl
  unfold readHost
  split
  · exact absurd (isPlain_of_isNameChar (chars '[' List.mem_cons_self)).1 (by decide)
  · simp only [decoded, ascii]

/-- Texts of digits and dots are their own ASCII form. -/
theorem toAscii_numbers {text : List Char} (h : ∀ c ∈ text, c.isDigit = true ∨ c = '.') :
    Domain.toAscii text = some text := by
  have digit : ∀ c : Char, c.isDigit = true → c.toNat < 0x80 := fun c digit => by
    simp only [Char.isDigit, Bool.and_eq_true, decide_eq_true_eq] at digit
    exact Nat.lt_of_le_of_lt (UInt32.le_iff_toNat_le.mp digit.2) (by decide)
  have chars : ∀ c : Char, c.toNat < 0x80 → (c.isDigit = true ∨ c = '.') →
      Domain.isForbidden c = false ∧ ¬ Domain.IsCapital c ∧ c ≠ 'x' := forall_ascii (by decide)
  have of_text : ∀ c ∈ text, c.toNat < 0x80 ∧ Domain.isForbidden c = false ∧
      ¬ Domain.IsCapital c ∧ c ≠ 'x' := by
    intro c mem
    have ascii : c.toNat < 0x80 := by
      rcases h c mem with is_digit | rfl
      · exact digit c is_digit
      · decide
    exact ⟨ascii, chars c ascii (h c mem)⟩
  have not_encoded : (text.splitOn '.').any Domain.isEncoded = false := by
    refine List.any_eq_false.mpr fun label inside encoded => ?_
    have of_label := (of_mem_splitOn inside).2
    rw [Domain.isEncoded, Domain.map_toLower_of_small fun c mem => (of_text c (of_label c mem)).2.2.1,
      List.isPrefixOf_iff_prefix] at encoded
    have lead : 'x' ∈ label := encoded.subset (by decide)
    exact (of_text 'x' (of_label 'x' lead)).2.2.2 rfl
  have allowed : text.any Domain.isForbidden = false :=
    List.any_eq_false.mpr fun c mem => by rw [(of_text c mem).2.1]; exact Bool.false_ne_true
  rw [Domain.toAscii, Domain.isAscii_iff.mpr fun c mem => (of_text c mem).1, not_encoded, allowed,
    Domain.map_toLower_of_small fun c mem => (of_text c mem).2.2.1]
  rfl

theorem mem_writeIpv4 {address : UInt32} {c : Char} (mem : c ∈ writeIpv4 address) :
    c.isDigit = true ∨ c = '.' := by
  rcases mem_intercalate mem with dot | ⟨part, inside, mem⟩
  · exact .inr dot
  · obtain ⟨n, -, rfl⟩ := List.mem_map.mp inside
    exact .inl (Nat.isDigit_of_mem_toDigits (by decide) (by decide) mem)

theorem toAscii_writeIpv4 (address : UInt32) :
    Domain.toAscii (writeIpv4 address) = some (writeIpv4 address) :=
  toAscii_numbers fun _ mem => mem_writeIpv4 mem

theorem writeIpv4_ne_nil (address : UInt32) : writeIpv4 address ≠ [] := by
  intro empty
  have parts := hostParts_writeIpv4 address
  rw [empty] at parts
  simp [hostParts, octets] at parts

/-- The hosts that are read of special URLs stand. -/
theorem stands_of_readHost {text : List Char} {host : Host} (h : readHost text = some host) :
    host.Stands := by
  unfold readHost at h
  split at h
  · rename_i rest
    unfold readBracketed at h
    split at h
    · obtain ⟨address, -, rfl⟩ := Option.map_eq_some_iff.mp h
      trivial
    · cases h
  · dsimp only at h
    split at h
    · cases h
    · cases h
    · rename_i domain nonempty ascii
      split at h
      · obtain ⟨address, -, rfl⟩ := Option.map_eq_some_iff.mp h
        trivial
      · rename_i name
        obtain rfl := Option.some.inj h
        simp only [Host.Stands, String.toList_ofList]
        exact ⟨Domain.toAscii_toAscii ascii, nonempty, Bool.eq_false_iff.mpr name⟩

/-- Hosts that stand are read back. -/
theorem readHost_write {host : Host} (h : host.Stands) : readHost host.write.toList = some host := by
  cases host with
  | empty => cases h
  | domain name =>
    obtain ⟨ascii, nonempty, name_only⟩ := h
    rw [Host.write, readHost_of_toAscii ascii nonempty, name_only]
    simp
  | ipv4 address =>
    rw [Host.write, String.toList_ofList,
      readHost_of_toAscii (toAscii_writeIpv4 address) (writeIpv4_ne_nil address),
      endsInNumber_writeIpv4, readIpv4_writeIpv4]
    rfl
  | ipv6 address =>
    rw [Host.write, String.toList_ofList]
    show readBracketed ('[' :: writeIpv6 address ++ [']']) = _
    have last : ('[' :: writeIpv6 address ++ [']']).getLast? = some ']' := List.getLast?_concat ..
    have inner : ('[' :: writeIpv6 address ++ [']']).dropLast.tail = writeIpv6 address := by
      rw [List.dropLast_concat]
      rfl
    unfold readBracketed
    rw [last]
    simp only [inner, readIpv6_writeIpv6, Option.map_some]

/-- The characters of hosts. -/
theorem isPlain_of_mem_write {host : Host} (h : host.Stands) :
    (∀ c ∈ host.write.toList, isPlain c = true) ∨
      ∃ inner, host.write.toList = '[' :: inner ++ [']'] ∧
        ∀ c ∈ inner, c = ':' ∨ isPlain c = true := by
  cases host with
  | empty => cases h
  | domain name => exact .inl fun c mem =>
      (isPlain_of_isNameChar (Domain.isNameChar_of_mem_toAscii h.1 c mem)).1
  | ipv4 address =>
    refine .inl fun c mem => ?_
    rw [Host.write, String.toList_ofList] at mem
    exact (isPlain_of_isNameChar
      (Domain.isNameChar_of_mem_toAscii (toAscii_writeIpv4 address) c mem)).1
  | ipv6 address =>
    refine .inr ⟨writeIpv6 address, String.toList_ofList, fun c mem => ?_⟩
    rcases mem_writeIpv6 mem with colon | ⟨d, small, rfl⟩
    · exact .inl colon
    · exact .inr (isPlain_digitChar d small)

/-! ## Host and port -/

theorem splitHost_plain {text after : List Char} (plain : ∀ c ∈ text, isPlain c = true)
    (stops : ∀ c ∈ after.head?, c = ':') : splitHost false (text ++ after) = (text, after) := by
  induction text with
  | nil =>
    cases after with
    | nil => rfl
    | cons c after =>
      obtain rfl := stops c rfl
      rfl
  | cons c text ih =>
    obtain ⟨of_c, plain⟩ := List.forall_mem_cons.mp plain
    simp only [isPlain, Bool.and_eq_true, bne_iff_ne] at of_c
    obtain ⟨⟨⟨-, colon⟩, opening⟩, closing⟩ := of_c
    rw [List.cons_append, splitHost, if_neg fun h => colon h.1]
    simp only [if_neg opening, if_neg closing, ih plain]

theorem splitHost_brackets {inner after : List Char}
    (plain : ∀ c ∈ inner, c = ':' ∨ isPlain c = true) (stops : ∀ c ∈ after.head?, c = ':') :
    splitHost true (inner ++ ']' :: after) = (inner ++ [']'], after) := by
  induction inner with
  | nil =>
    rw [List.nil_append, splitHost, if_neg (by decide)]
    have := splitHost_plain (show ∀ c ∈ ([] : List Char), isPlain c = true from nofun) stops
    rw [List.nil_append] at this
    simp [this]
  | cons c inner ih =>
    obtain ⟨of_c, plain⟩ := List.forall_mem_cons.mp plain
    have not_bracket : c ≠ '[' ∧ c ≠ ']' := by
      rcases of_c with rfl | of_c
      · decide
      · simp only [isPlain, Bool.and_eq_true, bne_iff_ne] at of_c
        exact ⟨of_c.1.2, of_c.2⟩
    rw [List.cons_append, splitHost, if_neg (by simp)]
    simp only [if_neg not_bracket.1, if_neg not_bracket.2, ih plain, List.cons_append]

/-- The host of an authority, before the port. -/
theorem splitHost_write {host : Host} (h : host.Stands) {after : List Char}
    (stops : ∀ c ∈ after.head?, c = ':') :
    splitHost false (host.write.toList ++ after) = (host.write.toList, after) := by
  rcases isPlain_of_mem_write h with plain | ⟨inner, eq, plain⟩
  · exact splitHost_plain plain stops
  · rw [eq, List.append_assoc, List.cons_append, List.singleton_append, splitHost,
      if_neg (by decide)]
    simp [splitHost_brackets plain stops]

theorem write_ne_nil {host : Host} (h : host.Stands) : host.write.toList ≠ [] := by
  cases host with
  | empty => cases h
  | domain name => exact h.2.1
  | ipv4 address =>
    rw [Host.write, String.toList_ofList]
    exact writeIpv4_ne_nil address
  | ipv6 address =>
    rw [Host.write, String.toList_ofList]
    exact List.cons_ne_nil _ _

theorem writePort_toList (port : Option Nat) :
    (writePort port).toList = (port.map fun p => ':' :: Nat.toDigits 10 p).getD [] := by
  cases port with
  | none => rfl
  | some port =>
    simp [writePort]

/-- A port, unless it is the scheme's own. -/
def shownPort (scheme : String) (port : Option Nat) : Option Nat :=
  port.filter fun p => defaultPort scheme != some p

/-- The port that a URL is reached at. -/
def effectivePort (url : Url) : Option Nat := url.port.or (defaultPort url.scheme)

theorem readPort_write (scheme : String) {port : Option Nat} (small : ∀ p ∈ port, p ≤ 65535) :
    readPort scheme (writePort port).toList = some (shownPort scheme port) := by
  rw [writePort_toList]
  cases port with
  | none => rfl
  | some port =>
    have digits : (Nat.toDigits 10 port).all Char.isDigit = true :=
      List.all_eq_true.mpr fun c mem => Nat.isDigit_of_mem_toDigits (by decide) (by decide) mem
    have read := readBase_toDigits (show 1 < 10 by decide) (by decide) port
    obtain ⟨c, rest, eq⟩ := List.exists_cons_of_ne_nil (Nat.toDigits_ne_nil (n := port) (b := 10))
    rw [eq] at digits read
    rw [Option.map_some, Option.getD_some, eq, readPort, digits, read]
    · have := small port rfl
      simp only [Bool.not_true, if_neg (show ¬ 65535 < port by omega), shownPort,
        Option.filter]
      by_cases own : defaultPort scheme = some port <;> simp [own]
    · nofun

/-- The characters of an authority. -/
theorem isInside_of_mem_authority {host : Host} (h : host.Stands) (port : Option Nat) :
    ∀ c ∈ (host.write ++ writePort port).toList, isInside c = true := by
  have of_plain : ∀ c, isPlain c = true → isInside c = true := by
    intro c plain
    simp only [isPlain, Bool.and_eq_true] at plain
    exact plain.1.1.1
  intro c mem
  rw [String.toList_append, List.mem_append] at mem
  rcases mem with mem | mem
  · rcases isPlain_of_mem_write h with plain | ⟨inner, eq, plain⟩
    · exact of_plain c (plain c mem)
    · rw [eq, List.mem_append, List.mem_cons, List.mem_singleton] at mem
      rcases mem with (rfl | mem) | rfl
      · decide
      · rcases plain c mem with rfl | plain
        · decide
        · exact of_plain c plain
      · decide
  · rw [writePort_toList] at mem
    cases port with
    | none => cases mem
    | some port =>
      rcases List.mem_cons.mp mem with rfl | mem
      · decide
      · obtain ⟨d, small, rfl⟩ := exists_digit_of_mem_toDigits (by decide) mem
        exact of_plain _ (isPlain_digitChar d (by omega))

/-- An authority of a host that stands is read back. -/
theorem readAuthority_write {scheme : String} (special : isSpecial scheme = true) {host : Host}
    (h : host.Stands) {port : Option Nat} (small : ∀ p ∈ port, p ≤ 65535) (more : Bool) :
    readAuthority scheme (host.write ++ writePort port).toList more =
      some { host := some host, port := shownPort scheme port } := by
  have no_user : splitUserinfo (host.write ++ writePort port).toList = none := by
    refine if_neg fun user => ?_
    exact absurd (isInside_of_mem_authority h port '@' (List.contains_iff_mem.mp user)) (by decide)
  have stops : ∀ c ∈ (writePort port).toList.head?, c = ':' := by
    rw [writePort_toList]
    cases port <;> simp
  have split := splitHost_write h stops
  rw [← String.toList_append] at split
  unfold readAuthority
  rw [no_user]
  simp only [split, special, List.isEmpty_eq_false_iff.mpr (write_ne_nil h), if_true,
    readHost_write h, readPort_write scheme small, Option.map_some]
  rfl

end Url

/-- The authority of a host that stands forms a URL with every absolute path, by either scheme, and
has no user. -/
theorem endpoint_of_stands (scheme : Scheme) {host : Url.Host} (h : host.Stands) {port : Option Nat}
    (small : ∀ p ∈ port, p ≤ 65535) {path : String} {rest : List Char}
    (absolute : path.toList = '/' :: rest) :
    ∃ url, endpoint scheme (host.write ++ Url.writePort port) path = .ok url ∧
      url.host = some host ∧ url.port = Url.shownPort scheme.word port ∧
      url.username = "" ∧ url.password = "" := by
  have special := Url.isSpecial_word scheme
  have inside := Url.isInside_of_mem_authority h port
  have text : Url.hostText (host.write ++ Url.writePort port) =
      (host.write ++ Url.writePort port).toList := by
    have keeps : (host.write ++ Url.writePort port).toList.filter Url.kept =
        (host.write ++ Url.writePort port).toList :=
      List.filter_eq_self.mpr fun c mem => (Url.of_isInside (inside c mem)).2.2
    rw [Url.hostText, keeps]
    exact dropWhile_eq_self fun c mem => by
      have := (Url.of_isInside (inside c (List.mem_of_mem_head? mem))).2.1
      simp only [Url.endsAuthority, Bool.or_eq_false_iff] at this
      exact this.1.1
  have nonempty : Url.hostText (host.write ++ Url.writePort port) ≠ [] := by
    rw [text, String.toList_append]
    exact List.append_ne_nil_of_left_ne_nil (Url.write_ne_nil h) _
  have parsed := Url.parse_endpoint scheme _ path absolute nonempty
  have whole : (Url.hostText (host.write ++ Url.writePort port)).takeWhile
      (fun c => !Url.endsAuthority true c) = (host.write ++ Url.writePort port).toList := by
    rw [text]
    exact takeWhile_eq_self fun c mem => by
      rw [(Url.of_isInside (inside c mem)).2.1]
      rfl
  rw [Url.readAfterSlashes_host _ _ _ special, whole, Url.readAuthority_write special h small]
    at parsed
  exact ⟨_, endpoint_ok_iff.mpr parsed, rfl, rfl, rfl, rfl⟩

namespace Url

/-! ## URLs of the web -/

/-- What is known of the host and port of a special URL. The port is not the scheme's own. -/
def Standing (url : Url) : Prop :=
  ∃ host, url.host = some host ∧ host.Stands ∧
    ∀ p ∈ url.port, p ≤ 65535 ∧ defaultPort url.scheme ≠ some p

/-- A URL of one of the schemes by which a controller is reached. -/
def HasWebScheme (url : Url) : Prop := url.scheme = "http" ∨ url.scheme = "https"

/-- URLs of the web: read of a text, or of a reference from another one. -/
inductive IsWeb : Url → Prop
  | parsed {text : String} {url : Url} (h : parse text = some url) (web : url.HasWebScheme) :
    IsWeb url
  | joined {base url : Url} {reference : String} (from_web : IsWeb base)
    (h : base.join reference = some url) (web : url.HasWebScheme) : IsWeb url

theorem port_of_readPort {scheme : String} {text : List Char} {port : Option Nat}
    (h : readPort scheme text = some port) :
    ∀ p ∈ port, p ≤ 65535 ∧ defaultPort scheme ≠ some p := by
  unfold readPort at h
  split at h
  · cases h; nofun
  · cases h; nofun
  · split at h
    · cases h
    · split at h
      · cases h
      · split at h
        · cases h
        · rename_i number _ small
          obtain rfl := Option.some.inj h
          intro p mem
          split at mem
          · cases mem
          · rename_i other
            obtain rfl := Option.some.inj mem
            exact ⟨by omega, other⟩
  · cases h

theorem standing_of_hostport {scheme username password : String} {host after : List Char}
    {authority : Authority}
    (h : (match readHost host with
      | none => none
      | some host => (readPort scheme after).map fun port =>
        Authority.mk username password (some host) port) = some authority) :
    ∃ host, authority.host = some host ∧ host.Stands ∧
      ∀ p ∈ authority.port, p ≤ 65535 ∧ defaultPort scheme ≠ some p := by
  split at h
  · cases h
  · rename_i host of_host
    obtain ⟨port, of_port, rfl⟩ := Option.map_eq_some_iff.mp h
    exact ⟨host, rfl, stands_of_readHost of_host, port_of_readPort of_port⟩

/-- The host and port that are read of the authority of a special URL. -/
theorem standing_of_readAfterSlashes {scheme : String} (special : isSpecial scheme = true)
    {text : List Char} {url : Url} (h : readAfterSlashes scheme text = some url) :
    url.Standing := by
  obtain ⟨authority, read, rfl⟩ := Option.map_eq_some_iff.mp h
  unfold readAuthority at read
  simp only [special, Bool.true_or, if_true] at read
  split at read <;> split at read
  · cases read
  · exact standing_of_hostport read
  · cases read
  · exact standing_of_hostport read

theorem scheme_of_readFile {text : List Char} {url : Url} (h : readFile text = some url) :
    url.scheme = "file" := by
  unfold readFile at h
  dsimp only at h
  split at h
  · split at h
    · split at h
      · cases h; rfl
      · obtain ⟨host, -, rfl⟩ := Option.map_eq_some_iff.mp h
        rfl
    · cases h; rfl
  · cases h; rfl

theorem scheme_of_readOther {scheme : String} {text : List Char} {url : Url}
    (h : readOther scheme text = some url) : url.scheme = scheme := by
  unfold readOther at h
  split at h
  · exact scheme_of_readAfterSlashes h
  · cases h; rfl
  · cases h; rfl

theorem HasWebScheme.isSpecial {url : Url} (web : url.HasWebScheme) :
    isSpecial url.scheme = true ∧ url.scheme ≠ "file" := by
  rcases web with eq | eq <;> rw [eq] <;> decide

theorem standing_of_parse {text : String} {url : Url} (h : parse text = some url)
    (web : url.HasWebScheme) : url.Standing := by
  unfold parse at h
  split at h
  · cases h
  · split at h
    · exact absurd (scheme_of_readFile h) web.isSpecial.2
    · split at h
      · rename_i special
        exact standing_of_readAfterSlashes special h
      · rename_i not_special
        exact absurd (scheme_of_readOther h ▸ web.isSpecial.1) not_special

/-- A reference without a host keeps that of the other URL. -/
theorem standing_of_joinRelative {base url : Url} (standing : base.Standing)
    (special : isSpecial base.scheme = true) {text : List Char}
    (h : joinRelative base text = some url) : url.Standing := by
  have below : ∀ slash tail, (joinRelative.below base (isSpecial base.scheme) slash tail
      fun parts => assemble base.scheme base.authorityParts (.segments parts) tail).Standing := by
    intro slash tail
    unfold joinRelative.below
    dsimp only
    split
    · split <;> exact standing
    · split <;> exact standing
  unfold joinRelative at h
  dsimp only at h
  split at h
  · split at h
    · exact standing_of_readAfterSlashes special h
    · obtain rfl := Option.some.inj h
      exact below _ _
  · obtain rfl := Option.some.inj h
    exact below _ _

theorem IsWeb.hasWebScheme {url : Url} (h : url.IsWeb) : url.HasWebScheme := by
  cases h <;> assumption

/-- URLs of the web have a host that stands, and a port. -/
theorem IsWeb.standing {url : Url} (h : url.IsWeb) : url.Standing := by
  induction h with
  | parsed h web => exact standing_of_parse h web
  | joined from_web h web ih =>
    unfold join at h
    split at h
    · exact standing_of_joinRelative ih from_web.hasWebScheme.isSpecial.1 h
    · split at h
      · exact standing_of_joinRelative ih from_web.hasWebScheme.isSpecial.1 h
      · exact standing_of_parse h web

/-- URLs of the web have an authority, and it forms a URL with every absolute path. -/
theorem IsWeb.authority {url : Url} (h : url.IsWeb) :
    ∃ authority, url.authority = some authority := by
  obtain ⟨host, eq, stands, -⟩ := h.standing
  cases host with
  | empty => cases stands
  | domain | ipv4 | ipv6 => exact ⟨_, by rw [Url.authority, eq]⟩

/-- The port of a web URL shows, since it is not the scheme's own. -/
theorem IsWeb.shownPort_eq {url : Url} (h : url.IsWeb) :
    shownPort url.scheme url.port = url.port := by
  obtain ⟨-, -, -, ports⟩ := h.standing
  cases shown : url.port with
  | none => rfl
  | some port =>
    have other := (ports port shown).2
    exact Option.filter_some_pos (bne_iff_ne.mpr other)

theorem authority_congr {url other : Url} (same_host : other.host = url.host)
    (same_port : other.port = url.port) : other.authority = url.authority := by
  simp only [authority, same_host, same_port]

end Url

/-- The authority of a web URL forms URLs of its host and port, by either scheme, and no more than
these are kept of it. -/
theorem endpoint_authority (scheme : Scheme) {url : Url} (h : url.IsWeb) {authority : String}
    (of_url : url.authority = some authority) {path : String} {rest : List Char}
    (absolute : path.toList = '/' :: rest) :
    ∃ formed, endpoint scheme authority path = .ok formed ∧ formed.host = url.host ∧
      formed.port = Url.shownPort scheme.word url.port ∧
      formed.username = "" ∧ formed.password = "" := by
  obtain ⟨host, eq, stands, ports⟩ := h.standing
  have written : authority = host.write ++ Url.writePort url.port := by
    cases host with
    | empty => cases stands
    | domain | ipv4 | ipv6 =>
      rw [Url.authority, eq] at of_url
      exact (Option.some.inj of_url).symm
  rw [written, eq]
  exact endpoint_of_stands scheme stands (fun p mem => (ports p mem).1) absolute

/-- Endpoints are web URLs. -/
theorem isWeb_of_endpoint {scheme : Scheme} {host path : String} {url : Url}
    (h : endpoint scheme host path = .ok url) : url.IsWeb := by
  refine .parsed (endpoint_ok_iff.mp h) ?_
  rw [Url.HasWebScheme, scheme_of_endpoint h]
  cases scheme <;> decide

end WlanAdmin
