import StationPool.Handshake
import StationPool.Proofs.Text.Base64
import StationPool.Proofs.Text.Parts

/-!
# Credentials in the handshake

What stands in the request for the credentials of a station, and what a server reads there.
Basic credentials are written as Base64, so any text comes through and none is refused. A token is
sent as it is, so one with a control character is refused with the request.
-/

namespace StationPool

open Text

variable {auth : Auth} {s : ConnectionSettings} {h : Handshake} {value username password : String}

/-- The bytes that no value of a header may hold: the ASCII controls except the tab. -/
def IsControl (b : UInt8) : Prop := b.toNat < 0x20 ∧ b ≠ 9 ∨ b = 0x7F

/-- A user name and a password as a server reads them from an authorization header: what is before
and behind the first colon. -/
def readBasic? (value : String) : Option (String × String) :=
  match value.toList with
  | 'B' :: 'a' :: 's' :: 'i' :: 'c' :: ' ' :: digits => do
    let bs ← Base64.decode? digits
    match bs.dropWhile (· != 0x3A) with
    | [] => none
    | _ :: password =>
      some (← Utf8.decode? (bs.takeWhile (· != 0x3A)), ← Utf8.decode? password)
  | _ => none

/-! ## Control characters -/

theorem isHeaderControl_iff {c : Char} {b : UInt8} (same : c.toNat = b.toNat) :
    isHeaderControl c = true ↔ IsControl b := by
  have tab : c = '\t' ↔ b = 9 := by
    rw [← UInt8.toNat_inj, ← same, ← Char.toNat_inj]
    rfl
  have del : b.toNat = 0x7F ↔ b = 0x7F := by
    rw [← UInt8.toNat_inj]
    rfl
  simp only [isHeaderControl, IsControl, Bool.or_eq_true, Bool.and_eq_true, decide_eq_true_eq,
    bne_iff_ne, beq_iff_eq, ne_eq, tab, same, del]

theorem IsControl.lt {b : UInt8} (control : IsControl b) : b.toNat < 0x80 := by
  rcases control with ⟨low, -⟩ | rfl
  · omega
  · decide

theorem range_of_isHeaderControl {c : Char} (control : isHeaderControl c = true) :
    c.toNat < 0x20 ∨ c.toNat = 0x7F := by
  simp only [isHeaderControl, Bool.or_eq_true, Bool.and_eq_true, decide_eq_true_eq,
    beq_iff_eq] at control
  exact control.imp_left And.left

/-- A value has a control character exactly if its bytes have a control byte. -/
theorem any_isHeaderControl_iff :
    value.toList.any isHeaderControl = true ↔ ∃ b ∈ Utf8.encode value, IsControl b := by
  rw [List.any_eq_true]
  constructor
  · intro ⟨c, mem, control⟩
    have small : c.toNat < 0x80 := by
      have := range_of_isHeaderControl control
      omega
    have same : c.toNat = (UInt8.ofNat c.toNat).toNat := by
      rw [UInt8.toNat_ofNat']
      omega
    exact ⟨_, (Utf8.mem_encode_of_ascii (same ▸ small)).mpr ⟨c, mem, same⟩,
      (isHeaderControl_iff same).mp control⟩
  · intro ⟨b, mem, control⟩
    obtain ⟨c, there, same⟩ := (Utf8.mem_encode_of_ascii control.lt).mp mem
    exact ⟨c, there, (isHeaderControl_iff same).mpr control⟩

/-! ## Basic credentials -/

theorem toList_basic (digits : List Char) : ("Basic " ++ String.ofList digits).toList =
    'B' :: 'a' :: 's' :: 'i' :: 'c' :: ' ' :: digits := by
  rw [String.toList_append, String.toList_ofList (l := digits)]
  rfl

/-- The credentials are encoded as the name, a colon and the password. -/
theorem encode_credentials (username password : String) :
    Utf8.encode (username ++ ":" ++ password) =
      Utf8.encode username ++ 0x3A :: Utf8.encode password := by
  have colon : Utf8.encode ":" = [0x3A] := by
    rw [Utf8.encode_eq]
    rfl
  rw [Utf8.encode_append, Utf8.encode_append, colon, List.append_assoc, List.singleton_append]

/-- The header of basic credentials decodes to the bytes of the name, a colon and the password. -/
theorem headerValue?_basic (username password : String) :
    ∃ digits, (Auth.basic username password).headerValue? =
        some ("Basic " ++ String.ofList digits) ∧
      Base64.decode? digits = some (Utf8.encode username ++ 0x3A :: Utf8.encode password) :=
  ⟨_, rfl, by rw [Base64.decode?_encode, encode_credentials]⟩

/-- A server that splits at the first colon reads the name and the password back, if the name has no
colon. -/
theorem readBasic?_headerValue? (plain : ':' ∉ username.toList) (password : String) :
    (Auth.basic username password).headerValue?.bind readBasic? = some (username, password) := by
  obtain ⟨digits, eq, decoded⟩ := headerValue?_basic username password
  have before : ∀ b ∈ Utf8.encode username, (b != 0x3A) = true := by
    intro b mem
    refine bne_iff_ne.mpr fun colon => plain ?_
    subst colon
    obtain ⟨c, there, same⟩ := (Utf8.mem_encode_of_ascii (by decide)).mp mem
    have eq : c = ':' := Char.toNat_inj.mp same
    rwa [eq] at there
  have taken : (Utf8.encode username ++ 0x3A :: Utf8.encode password).takeWhile (· != 0x3A) =
      Utf8.encode username := by
    rw [List.takeWhile_append_of_pos before, List.takeWhile_cons_of_neg (by decide),
      List.append_nil]
  have left : (Utf8.encode username ++ 0x3A :: Utf8.encode password).dropWhile (· != 0x3A) =
      0x3A :: Utf8.encode password := by
    rw [List.dropWhile_append_of_pos before, List.dropWhile_cons_of_neg (by decide)]
  rw [eq, Option.bind_some, readBasic?, toList_basic]
  simp only [decoded, Option.bind_eq_bind, Option.bind_some, taken, left, Utf8.decode?_encode]

/-- A basic header has no control byte, whatever the credentials are. -/
theorem basic_clear (some_ : (Auth.basic username password).headerValue? = some value) :
    ¬ value.toList.any isHeaderControl = true := by
  obtain rfl := Option.some.inj some_
  have name : "Basic ".toList.any isHeaderControl = false := rfl
  rw [String.toList_append, List.any_append, name, Bool.false_or, String.toList_ofList,
    List.any_eq_true]
  rintro ⟨c, mem, control⟩
  have visible := Base64.visible_of_mem_encode mem
  have control := range_of_isHeaderControl control
  omega

/-! ## The request -/

/-- Credentials without a control character change nothing of a request but its authorization
header. -/
theorem Handshake.ofSettings_of_clear (s : ConnectionSettings)
    (some_ : auth.headerValue? = some value) (clear : ¬ value.toList.any isHeaderControl = true) :
    Handshake.ofSettings { s with auth } =
      (Handshake.ofSettings { s with auth := .none }).map
        fun h => { h with authorization := some value } := by
  have none_ : Auth.none.headerValue? = none := rfl
  unfold Handshake.ofSettings
  cases Handshake.endpoint s.url with
  | error e => simp only [Except.map]
  | ok found =>
    simp only [some_, none_, if_neg clear, Except.map, ConnectionSettings.subprotocol]

/-- A header with a control byte is refused before anything is sent. -/
theorem Handshake.ofSettings_of_control (some_ : s.auth.headerValue? = some value)
    (control : value.toList.any isHeaderControl = true) :
    ∃ reason, Handshake.ofSettings s = .error (.invalidRequest reason) := by
  unfold Handshake.ofSettings
  cases Handshake.endpoint s.url with
  | error e => exact ⟨_, rfl⟩
  | ok found =>
    simp only [some_, if_pos control]
    exact ⟨_, rfl⟩

/-- A handshake that is made has the header of the settings and no control byte in it. -/
theorem Handshake.of_ofSettings (made : Handshake.ofSettings s = .ok h) :
    h.authorization = s.auth.headerValue? ∧ h.subprotocol = s.subprotocol ∧
      ∀ value, h.authorization = some value → ¬ value.toList.any isHeaderControl = true := by
  unfold Handshake.ofSettings at made
  split at made
  · cases made
  split at made
  case h_1 none_ =>
    cases made
    exact ⟨none_.symm, by dsimp only, fun _ some_ => nomatch some_⟩
  case h_2 value some_ =>
    split at made
    · cases made
    · cases made
      refine ⟨some_.symm, by dsimp only, fun _ same => ?_⟩
      obtain rfl := Option.some.inj same
      assumption

/-- The handshake sends the authorization once, or not at all. -/
theorem Handshake.headers_authorization (h : Handshake) :
    h.headers.filter (·.1 = "authorization") =
      (h.authorization.map fun value => ("authorization", value)).toList := by
  cases authorization : h.authorization <;> simp [Handshake.headers, authorization]

/-- The handshake sends the subprotocol once. -/
theorem Handshake.headers_subprotocol (h : Handshake) :
    h.headers.filter (·.1 = "sec-websocket-protocol") =
      [("sec-websocket-protocol", h.subprotocol)] := by
  cases authorization : h.authorization <;> simp [Handshake.headers, authorization]

/-- Only the absence of credentials gives no header. -/
theorem headerValue?_eq_none : auth.headerValue? = none ↔ auth = .none := by
  cases auth <;> simp [Auth.headerValue?]

/-- The subprotocol has no control byte, whatever the version is. -/
theorem subprotocolFor_clear (version : String) :
    ¬ (subprotocolFor version).toList.any isHeaderControl = true := by
  rw [subprotocolFor]
  cases Version.ofText version <;> decide

/-- Neither the credentials nor the subprotocol of a request holds a control character. -/
theorem Handshake.headers_clear (made : Handshake.ofSettings s = .ok h) {header : String × String}
    (mem : header ∈ h.headers)
    (named : header.1 = "authorization" ∨ header.1 = "sec-websocket-protocol") :
    ¬ header.2.toList.any isHeaderControl = true := by
  have ⟨_, subprotocol, clear⟩ := Handshake.of_ofSettings made
  rcases named with named | named
  · have only : header ∈ h.headers.filter (·.1 = "authorization") :=
      List.mem_filter.mpr ⟨mem, decide_eq_true named⟩
    rw [headers_authorization, Option.mem_toList, Option.map_eq_some_iff] at only
    obtain ⟨value, some_, rfl⟩ := only
    exact clear value some_
  · have only : header ∈ h.headers.filter (·.1 = "sec-websocket-protocol") :=
      List.mem_filter.mpr ⟨mem, decide_eq_true named⟩
    rw [headers_subprotocol, List.mem_singleton] at only
    have value : header.2 = subprotocolFor s.protocolVersion :=
      (congrArg Prod.snd only).trans subprotocol
    rw [value]
    exact subprotocolFor_clear _

/-- Basic credentials of any text reach the server as they are, a colon in the user name apart, and
never stop a request. A request has an authorization header, and then one, if there are credentials,
and one offered subprotocol; neither holds a control character. A token that does stops the
request. -/
theorem credentials_reach_the_server (s : ConnectionSettings) :
    (∀ username password : String,
      (∃ digits, (Auth.basic username password).headerValue? =
          some ("Basic " ++ String.ofList digits) ∧
        Base64.decode? digits = some (Utf8.encode username ++ 0x3A :: Utf8.encode password)) ∧
      (':' ∉ username.toList →
        (Auth.basic username password).headerValue?.bind readBasic? = some (username, password)) ∧
      Handshake.ofSettings { s with auth := .basic username password } =
        (Handshake.ofSettings { s with auth := .none }).map
          fun h => { h with authorization := (Auth.basic username password).headerValue? }) ∧
    (∀ h, Handshake.ofSettings s = .ok h →
      h.headers.filter (·.1 = "authorization") =
        (s.auth.headerValue?.map fun value => ("authorization", value)).toList ∧
      (s.auth.headerValue? = none ↔ s.auth = .none) ∧
      h.headers.filter (·.1 = "sec-websocket-protocol") =
        [("sec-websocket-protocol", subprotocolFor s.protocolVersion)] ∧
      ∀ header ∈ h.headers, header.1 = "authorization" ∨ header.1 = "sec-websocket-protocol" →
        ∀ b ∈ Utf8.encode header.2, ¬ IsControl b) ∧
    ∀ token, s.auth = .bearer token → (∃ b ∈ Utf8.encode token, IsControl b) →
      ∃ reason, Handshake.ofSettings s = .error (.invalidRequest reason) := by
  refine ⟨fun username password => ⟨headerValue?_basic username password,
    fun plain => readBasic?_headerValue? plain password,
    Handshake.ofSettings_of_clear s rfl (basic_clear rfl)⟩, fun h made => ?_,
    fun token bearer control => ?_⟩
  · have ⟨authorization, subprotocol, _⟩ := Handshake.of_ofSettings made
    exact ⟨by rw [h.headers_authorization, authorization], headerValue?_eq_none,
      h.headers_subprotocol.trans (by rw [subprotocol, ConnectionSettings.subprotocol]),
      fun header mem named b there control => Handshake.headers_clear made mem named
        (any_isHeaderControl_iff.mpr ⟨b, there, control⟩)⟩
  · have behind : ∃ b ∈ Utf8.encode ("Bearer " ++ token), IsControl b := by
      obtain ⟨b, mem, control⟩ := control
      exact ⟨b, Utf8.encode_append .. ▸ List.mem_append_right _ mem, control⟩
    exact Handshake.ofSettings_of_control (by rw [bearer]; rfl) (any_isHeaderControl_iff.mpr behind)

/-- The settings of a station with the given credentials. -/
def settingsWith (auth : Auth) : ConnectionSettings :=
  { stationId := "CP001", url := "ws://127.0.0.1:9000/CP001", auth }

/-- A password with a colon and a line break in it comes through; a token with a line break does
not. -/
theorem credentials_reach_the_server_with_line_breaks :
    (':' ∉ "CP001".toList ∧ (Auth.basic "CP001" "a:b\n").headerValue?.bind readBasic? =
      some ("CP001", "a:b\n")) ∧
    (∃ h, Handshake.ofSettings (settingsWith (.basic "CP001" "a:b\n")) = .ok h ∧
      h.headers.filter (·.1 = "authorization") = [("authorization", "Basic Q1AwMDE6YTpiCg==")] ∧
      ∀ header ∈ h.headers, header.1 = "authorization" →
        ∀ b ∈ Utf8.encode header.2, ¬ IsControl b) ∧
    (∃ b ∈ Utf8.encode "a\nb", IsControl b) ∧
    ∃ reason, Handshake.ofSettings (settingsWith (.bearer "a\nb")) =
      .error (.invalidRequest reason) := by
  have plain : ':' ∉ "CP001".toList := by decide
  have control : ∃ b ∈ Utf8.encode "a\nb", IsControl b :=
    any_isHeaderControl_iff.mp (by decide)
  have value : (Auth.basic "CP001" "a:b\n").headerValue? = some "Basic Q1AwMDE6YTpiCg==" := by
    rw [Auth.headerValue?, encode_credentials, Utf8.encode_eq, Utf8.encode_eq]
    rfl
  refine ⟨⟨plain, ((credentials_reach_the_server {}).1 _ _).2.1 plain⟩, ?_, control,
    (credentials_reach_the_server _).2.2 _ rfl control⟩
  obtain ⟨bare, made⟩ : ∃ h, Handshake.ofSettings (settingsWith .none) = .ok h := ⟨_, rfl⟩
  have made := ((credentials_reach_the_server (settingsWith .none)).1 "CP001" "a:b\n").2.2.trans
    (congrArg (Except.map _) made)
  have ⟨shown, _, _, clear⟩ := (credentials_reach_the_server _).2.1 _ made
  exact ⟨_, made, shown.trans (by rw [value]; rfl), fun header mem named =>
    clear header mem (.inl named)⟩

end StationPool
