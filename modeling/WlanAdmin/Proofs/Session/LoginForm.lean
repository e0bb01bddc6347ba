import WlanAdmin.Proofs.Session.Moves
import WlanAdmin.Proofs.Text.Digits
import WlanAdmin.Proofs.Text.Replacement
import WlanAdmin.Proofs.Url.Authority
import WlanAdmin.Session.Login

/-!
# WlanAdmin.Proofs.Session.LoginForm

The form that logs in is read as the pairs it was written from, so no name and no password can add
a pair, end one early or pass for another.

* `Url.readForm`              : how a controller reads a form.
* `Url.readForm_writeForm`    : every form is read as its pairs.
* `Context.loginRequest_form` : what a login says.
-/

namespace WlanAdmin
namespace Url

/-! ## Reading forms -/

/-- A name or a value. Plus signs are blanks, which is settled before percent signs are resolved. -/
def readFormText (octets : Bytes) : String :=
  String.ofList <| decodeReplacing <| percentDecode <|
    octets.map fun b => if b = 0x2B then 0x20 else b

/-- What stands between two ampersands: a name up to the first equals sign, and a value. -/
def readFormPair (octets : Bytes) : String × String :=
  (readFormText (octets.takeWhile (· != 0x3D)),
    readFormText ((octets.dropWhile (· != 0x3D)).drop 1))

/-- The pairs of a form. Between two ampersands there may be none. -/
def readForm (octets : Bytes) : List (String × String) :=
  ((octets.splitOn 0x26).filter (!·.isEmpty)).map readFormPair

/-! ## One octet -/

theorem isFormByte_plain {b : UInt8} (h : isFormByte b = true) :
    b.toNat < 128 ∧ b ≠ 0x25 ∧ b ≠ 0x26 ∧ b ≠ 0x2B ∧ b ≠ 0x3D := by
  refine ⟨?_, ?_, ?_, ?_, ?_⟩
  · simp only [isFormByte, Bool.or_eq_true, Bool.and_eq_true, decide_eq_true_eq,
      UInt8.le_iff_toNat_le, beq_iff_eq, ← UInt8.toNat_inj, UInt8.reduceToNat] at h
    omega
  all_goals
    rintro rfl
    cases h

theorem upperHexDigit_ascii : ∀ n < 16, (upperHexDigit n).toNat < 128 := by decide

def hexOctet (n : Nat) : UInt8 := UInt8.ofNat (upperHexDigit n).toNat

theorem hexOctet_plain :
    ∀ n < 16, hexOctet n ≠ 0x26 ∧ hexOctet n ≠ 0x2B ∧ hexOctet n ≠ 0x3D := by decide

theorem hexOctet_value :
    ∀ n < 16, isHexByte (hexOctet n) = true ∧ hexByteValue (hexOctet n) = n := by decide

/-- The octets that are written for one. -/
def formOctets (b : UInt8) : Bytes := (formByte b).flatMap utf8Char

theorem formOctets_cases (b : UInt8) :
    isFormByte b = true ∧ formOctets b = [b] ∨
    b = 0x20 ∧ formOctets b = [0x2B] ∨
    formOctets b = [0x25, hexOctet (b.toNat / 16), hexOctet (b.toNat % 16)] := by
  have small : b.toNat < 256 := b.toNat_lt
  unfold formOctets formByte
  by_cases plain : isFormByte b = true
  · left
    have low := (isFormByte_plain plain).1
    have char : (Char.ofNat b.toNat).toNat = b.toNat := by
      rw [Char.ofNat, dif_pos (.inl (by omega))]
      rfl
    have ascii : (Char.ofNat b.toNat).toNat < 128 := by omega
    refine ⟨plain, ?_⟩
    rw [if_pos plain, List.flatMap_singleton, utf8Char_ascii ascii, char, UInt8.ofNat_toNat]
  · rw [if_neg plain]
    by_cases blank : b = 0x20
    · subst blank
      exact .inr (.inl ⟨rfl, rfl⟩)
    · right; right
      have first : (upperHexDigit (b.toNat / 16)).toNat < 128 := upperHexDigit_ascii _ (by omega)
      have second : (upperHexDigit (b.toNat % 16)).toNat < 128 := upperHexDigit_ascii _ (by omega)
      have percent : utf8Char '%' = [0x25] := rfl
      rw [if_neg (by simpa using blank), percentByte]
      simp only [List.flatMap_cons, List.flatMap_nil, percent, utf8Char_ascii first,
        utf8Char_ascii second, List.cons_append, List.nil_append]
      rfl

/-- No separator is written for an octet. -/
theorem formOctets_plain {b c : UInt8} (mem : c ∈ formOctets b) : c ≠ 0x26 ∧ c ≠ 0x3D := by
  have small : b.toNat < 256 := b.toNat_lt
  obtain ⟨plain, written⟩ | ⟨-, written⟩ | written := formOctets_cases b <;> rw [written] at mem
  · obtain ⟨-, -, ampersand, -, equals⟩ := isFormByte_plain plain
    rw [List.mem_singleton.mp mem]
    exact ⟨ampersand, equals⟩
  · rw [List.mem_singleton.mp mem]
    decide
  · simp only [List.mem_cons, List.not_mem_nil, or_false] at mem
    rcases mem with rfl | rfl | rfl
    · decide
    · obtain ⟨ampersand, -, equals⟩ := hexOctet_plain (b.toNat / 16) (by omega)
      exact ⟨ampersand, equals⟩
    · obtain ⟨ampersand, -, equals⟩ := hexOctet_plain (b.toNat % 16) (by omega)
      exact ⟨ampersand, equals⟩

theorem percentDecode_hex {n : Nat} (small : n < 256) (rest : Bytes) :
    percentDecode (0x25 :: hexOctet (n / 16) :: hexOctet (n % 16) :: rest) =
      UInt8.ofNat n :: percentDecode rest := by
  obtain ⟨first, first_value⟩ := hexOctet_value (n / 16) (by omega)
  obtain ⟨second, second_value⟩ := hexOctet_value (n % 16) (by omega)
  rw [percentDecode, first, second, Bool.and_self, if_pos rfl, first_value, second_value,
    Nat.div_add_mod]

/-- What is written for an octet is read as that octet. -/
theorem percentDecode_formOctets (b : UInt8) (rest : Bytes) :
    percentDecode ((formOctets b).map (fun b => if b = 0x2B then 0x20 else b) ++ rest) =
      b :: percentDecode rest := by
  have small : b.toNat < 256 := b.toNat_lt
  obtain ⟨plain, written⟩ | ⟨rfl, written⟩ | written := formOctets_cases b <;> rw [written]
  · obtain ⟨-, percent, -, plus, -⟩ := isFormByte_plain plain
    rw [List.map_singleton, if_neg plus, List.singleton_append, percentDecode_cons percent]
  · exact percentDecode_cons (by decide) rest
  · obtain ⟨-, first, -⟩ := hexOctet_plain (b.toNat / 16) (by omega)
    obtain ⟨-, second, -⟩ := hexOctet_plain (b.toNat % 16) (by omega)
    simp only [List.map_cons, List.map_nil, if_neg first, if_neg second, List.cons_append,
      List.nil_append, if_neg (show (0x25 : UInt8) ≠ 0x2B by decide)]
    rw [percentDecode_hex small, UInt8.ofNat_toNat]

/-! ## Texts and pairs -/

def formTextOctets (text : String) : Bytes := (utf8 text).flatMap formOctets

theorem utf8_formText (text : String) :
    (formText text).flatMap utf8Char = formTextOctets text := by
  rw [formText, formTextOctets, List.flatMap_assoc]
  rfl

theorem formTextOctets_plain {text : String} {c : UInt8} (mem : c ∈ formTextOctets text) :
    c ≠ 0x26 ∧ c ≠ 0x3D := by
  obtain ⟨b, -, mem⟩ := List.mem_flatMap.mp mem
  exact formOctets_plain mem

theorem readFormText_written (text : String) : readFormText (formTextOctets text) = text := by
  have decoded : ∀ octets : Bytes,
      percentDecode ((octets.flatMap formOctets).map fun b => if b = 0x2B then 0x20 else b) =
        octets := by
    intro octets
    induction octets with
    | nil => rfl
    | cons b octets ih =>
      rw [List.flatMap_cons, List.map_append, percentDecode_formOctets, ih]
  rw [readFormText, formTextOctets, decoded, decodeReplacing_utf8, String.ofList_toList]

def formPairOctets (pair : String × String) : Bytes :=
  formTextOctets pair.1 ++ 0x3D :: formTextOctets pair.2

theorem readFormPair_written (pair : String × String) :
    readFormPair (formPairOctets pair) = pair := by
  have name : ∀ c ∈ formTextOctets pair.1, (c != 0x3D) = true := fun c mem => by
    simpa using (formTextOctets_plain mem).2
  rw [readFormPair, formPairOctets, List.takeWhile_append_of_pos name,
    List.dropWhile_append_of_pos name, List.takeWhile_cons_of_neg (by simp),
    List.dropWhile_cons_of_neg (by simp), List.append_nil, List.drop_one, List.tail_cons,
    readFormText_written, readFormText_written]

theorem formPairOctets_plain (pair : String × String) : 0x26 ∉ formPairOctets pair := by
  intro mem
  rcases List.mem_append.mp mem with mem | mem
  · exact (formTextOctets_plain mem).1 rfl
  · rcases List.mem_cons.mp mem with same | mem
    · cases same
    · exact (formTextOctets_plain mem).1 rfl

theorem utf8_writeForm (pairs : List (String × String)) :
    utf8 (String.ofList (writeForm pairs)) = [0x26].intercalate (pairs.map formPairOctets) := by
  have ampersand : utf8Char '&' = [0x26] := rfl
  have equals : utf8Char '=' = [0x3D] := rfl
  rw [utf8_ofList, writeForm, flatMap_intercalate, ampersand, List.map_map]
  refine congrArg _ (List.map_congr_left fun pair _ => ?_)
  rw [Function.comp_apply, List.flatMap_append, List.flatMap_cons, utf8_formText, utf8_formText,
    equals]
  rfl

/-- Every form is read as its pairs, whatever texts they hold. -/
theorem readForm_writeForm (pairs : List (String × String)) :
    readForm (utf8 (String.ofList (writeForm pairs))) = pairs := by
  rw [utf8_writeForm, readForm]
  cases pairs with
  -- no octets are one empty part, which is passed over
  | nil => rfl
  | cons pair pairs =>
    have nonempty : ∀ octets ∈ (pair :: pairs).map formPairOctets, (!octets.isEmpty) = true := by
      intro octets mem
      obtain ⟨pair, -, rfl⟩ := List.mem_map.mp mem
      simp [formPairOctets]
    have apart : ∀ octets ∈ (pair :: pairs).map formPairOctets, 0x26 ∉ octets := by
      intro octets mem
      obtain ⟨pair, -, rfl⟩ := List.mem_map.mp mem
      exact formPairOctets_plain pair
    rw [List.splitOn_intercalate _ apart (by simp), List.filter_eq_self.mpr nonempty,
      List.map_map]
    exact (List.map_congr_left fun pair _ => readFormPair_written pair).trans (List.map_id _)

end Url

/-! ## The form of a login -/

theorem Credentials.readForm_form (credentials : Credentials) :
    Url.readForm credentials.form =
      [("username", credentials.username), ("password", credentials.password),
        ("ok", "Log\u00a0in")] :=
  Url.readForm_writeForm _

/-- Forms of different credentials differ. -/
theorem Credentials.form_inj {credentials other : Credentials}
    (same : credentials.form = other.form) : credentials = other := by
  have read := credentials.readForm_form
  rw [same, other.readForm_form] at read
  obtain ⟨username, password⟩ := credentials
  obtain ⟨username', password'⟩ := other
  cases read
  rfl

/-- The body of a login is a form of exactly three pairs, in this order, with the name and the
password as they are. So logins with the same body have the same credentials. -/
theorem Context.loginRequest_form (scheme : Scheme) (context : Context) (request : HttpRequest)
    (made : context.loginRequest scheme = .ok request) :
    request.contentType = some formContentType ∧
    Url.readForm request.body =
      [("username", context.credentials.username), ("password", context.credentials.password),
        ("ok", "Log\u00a0in")] ∧
    ∀ scheme' (context' : Context) (request' : HttpRequest),
      context'.loginRequest scheme' = .ok request' → request'.body = request.body →
      context'.credentials = context.credentials := by
  obtain ⟨url, -, rfl⟩ := Session.loginRequest_ok made
  refine ⟨rfl, context.credentials.readForm_form, fun scheme' context' request' made' same => ?_⟩
  obtain ⟨url', -, rfl⟩ := Session.loginRequest_ok made'
  exact Credentials.form_inj same

/-- A name that looks like a pair of its own, and a password that looks encoded. -/
theorem Context.loginRequest_form_separators :
    let context : Context := { host := "a", credentials := ⟨"u&ok=é=", "+ %41&%"⟩ }
    let url : Url := ⟨"https", "", "", some (.domain "a"), none, .segments ["admin", "login.jsp"],
      none, none⟩
    let request : HttpRequest :=
      { HttpRequest.post url (utf8
          "username=u%26ok%3D%C3%A9%3D&password=%2B+%2541%26%25&ok=Log%C2%A0in") with
        bodyLimit := loginBodyLimit }
    context.loginRequest .https = .ok request ∧
      Url.readForm request.body =
        [("username", "u&ok=é="), ("password", "+ %41&%"), ("ok", "Log\u00a0in")] := by
  intro context url request
  have there : endpoint .https "a" loginPath = .ok url := endpoint_ok_iff.mpr (by decide +kernel)
  have written : context.credentials.form = request.body := by decide +kernel
  have made : context.loginRequest .https = .ok request := by
    simp only [Context.loginRequest, context, there]
    exact congrArg (fun body => Except.ok { request with body }) written
  exact ⟨made, (Context.loginRequest_form .https context request made).2.1⟩

end WlanAdmin
