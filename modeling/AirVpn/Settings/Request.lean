import AirVpn.Lib.Query
import AirVpn.Cache.Key
import AirVpn.Settings.Accepted

/-! # The request that a setting makes

Reading the query of a generator URL back. The escaped values come back as they
were; the port is pasted as it is, and the request is the one that is meant exactly
when the text of the port is the shortest one of its number.
-/

namespace AirVpn

open Cache

/-! ## Escaped values -/

theorem hexValue_hexDigit : ∀ n < 16, Query.hexValue (hexDigit n) = some n := by decide

theorem utf8EncodeChar_unreserved : ∀ n : Fin 256, isUnreserved (UInt8.ofFin n) = true →
    String.utf8EncodeChar (Char.ofNat n) = [UInt8.ofFin n] := by decide +kernel

theorem unescape_percentEncode (b : UInt8) (rest : List Char) :
    Query.unescape (percentEncode b ++ rest) = b :: Query.unescape rest := by
  have hb := b.toNat_lt
  unfold percentEncode
  split
  · rename_i h
    have hchar : String.utf8EncodeChar (Char.ofNat b.toNat) = [b] :=
      utf8EncodeChar_unreserved b.toFin h
    rw [List.singleton_append, Query.unescape_cons (ofNat_ne_percent h), hchar]
    rfl
  · have hhigh := hexValue_hexDigit (b.toNat / 16) (by omega)
    have hlow := hexValue_hexDigit (b.toNat % 16) (by omega)
    have hsum : 16 * (b.toNat / 16) + b.toNat % 16 = b.toNat := Nat.div_add_mod _ _
    rw [List.cons_append, List.cons_append, List.singleton_append,
      Query.unescape_percent hhigh hlow, hsum, UInt8.ofNat_toNat]

theorem unescape_curlEasyEscape (s : String) :
    Query.unescape (curlEasyEscape s) = Query.utf8 s.toList := by
  have h : ∀ bytes : List UInt8, Query.unescape (bytes.flatMap percentEncode) = bytes := by
    intro bytes
    induction bytes with
    | nil => rfl
    | cons b bytes ih => rw [List.flatMap_cons, unescape_percentEncode, ih]
  rw [Query.utf8_toList]
  exact h _

/-! ## The request that is meant -/

/-- What follows the `?`. -/
def urlQuery (url : List Char) : List Char := (url.dropWhile (· ≠ '?')).tail

def portNumber (params : NMAirvpnGeneratorParams) : Nat :=
  (strtol (requestedPort params).toList).toNat

def meantIfSet (name : String) (value : Option String) : List (String × String) :=
  match nonEmpty value with
  | none => []
  | some v => [(name, v)]

/-- Each parameter once, with the configured value. -/
def meantRequest (params : NMAirvpnGeneratorParams) : List (String × String) :=
  [("system", "linux"), ("download", "auto"),
    ("protocols", "openvpn_3_" ++ requestedProtocol params ++ "_" ++ toString (portNumber params)),
    ("servers", orEmpty params.server)] ++
  meantIfSet "device" params.device ++
  meantIfSet "openvpn_directives" params.customDirectives

def utf8Pair (parameter : String × String) : List UInt8 × List UInt8 :=
  (Query.utf8 parameter.1.toList, Query.utf8 parameter.2.toList)

/-- The query of the setting's URL says what the setting says, byte for byte. -/
def RequestsAsMeant (s : NMSettingVpn) : Prop :=
  Query.decode (urlQuery (buildGeneratorUrl (getGeneratorParams s))) =
    (meantRequest (getGeneratorParams s)).map utf8Pair

/-! ## Parameter by parameter -/

def urlTail (params : NMAirvpnGeneratorParams) : List Char :=
  "servers=".toList ++ curlEasyEscape (orEmpty params.server) ++
    optionalParam "&device=" params.device ++
    optionalParam "&openvpn_directives=" params.customDirectives

theorem decode_escaped {name : List Char} (heq : '=' ∉ name) (hamp : '&' ∉ name)
    (hpercent : '%' ∉ name) (v : String) :
    Query.decode (name ++ '=' :: curlEasyEscape v) =
      [(Query.utf8 name, Query.utf8 v.toList)] := by
  rw [Query.decode_field heq hamp (amp_notMem_escape v), unescape_curlEasyEscape,
    Query.unescape_plain hpercent]

theorem decode_optionalParam {name : String} (field : List Char)
    (hname : name.toList = '&' :: (field ++ ['='])) (heq : '=' ∉ field) (hamp : '&' ∉ field)
    (hpercent : '%' ∉ field) (first : List Char) (value : Option String) :
    Query.decode (first ++ optionalParam name value) =
      Query.decode first ++ (meantIfSet (String.ofList field) value).map utf8Pair := by
  unfold optionalParam meantIfSet
  cases nonEmpty value with
  | none => simp
  | some v =>
      have htext : first ++ (name.toList ++ curlEasyEscape v) =
          first ++ '&' :: (field ++ '=' :: curlEasyEscape v) := by
        rw [hname]
        simp
      dsimp only
      rw [htext, Query.decode_append, decode_escaped heq hamp hpercent]
      simp [utf8Pair]

theorem decode_urlTail (params : NMAirvpnGeneratorParams) :
    Query.decode (urlTail params) =
      (("servers", orEmpty params.server) :: (meantIfSet "device" params.device ++
        meantIfSet "openvpn_directives" params.customDirectives)).map utf8Pair := by
  unfold urlTail
  rw [decode_optionalParam "openvpn_directives".toList rfl (by decide) (by decide)
      (by decide),
    decode_optionalParam "device".toList rfl (by decide) (by decide) (by decide)]
  have hserver : Query.decode ("servers".toList ++ '=' :: curlEasyEscape (orEmpty params.server)) =
      [(Query.utf8 "servers".toList, Query.utf8 (orEmpty params.server).toList)] :=
    decode_escaped (by decide) (by decide) (by decide) _
  have htext : "servers=".toList ++ curlEasyEscape (orEmpty params.server) =
      "servers".toList ++ '=' :: curlEasyEscape (orEmpty params.server) := rfl
  rw [htext, hserver]
  simp [utf8Pair]

/-! ## The port -/

theorem ascii_of_digit {c : Char} (h : c.isDigit = true) : c.toNat < 128 := by
  have hc := Decimal.digit_le h
  omega

theorem utf8_digits {text : List Char} (h : ∀ c ∈ text, c.isDigit = true) :
    Query.utf8 text = text.map fun c => UInt8.ofNat c.toNat :=
  Query.utf8_ascii fun c hc => ascii_of_digit (h c hc)

theorem percent_notMem_digits {text : List Char} (h : ∀ c ∈ text, c.isDigit = true) :
    '%' ∉ text := fun hm => absurd (h _ hm) (by decide)

theorem unescape_skipped {c : Char} (h : isSpace c = true ∨ c = '+') (rest : List Char) :
    ∃ n, n < 48 ∧ Query.unescape (c :: rest) = UInt8.ofNat n :: Query.unescape rest := by
  have hcode : c.toNat < 48 ∧ c ≠ '%' := by
    rcases h with h | rfl
    · simp only [isSpace, gAsciiIsSpace, Bool.or_eq_true, decide_eq_true_eq] at h
      refine ⟨?_, ?_⟩
      · rcases h with ((((rfl | rfl) | rfl) | rfl) | h) | h
        all_goals first | decide | omega
      · rintro rfl
        revert h
        decide
    · decide
  refine ⟨c.toNat, hcode.1, ?_⟩
  rw [Query.unescape_cons hcode.2, Query.utf8EncodeChar_ascii (by omega)]
  rfl

theorem unescape_skipped_ne_digits {c : Char} (h : isSpace c = true ∨ c = '+')
    (rest : List Char) (n : Nat) :
    Query.unescape (c :: rest) ≠ Query.utf8 (Nat.toDigits 10 n) := by
  intro heq
  have hdigits := (Decimal.plain_toDigits n).digits
  obtain ⟨code, hcode, hbyte⟩ := unescape_skipped h rest
  rw [hbyte, utf8_digits hdigits] at heq
  cases hd : Nat.toDigits 10 n with
  | nil => exact absurd hd Nat.toDigits_ne_nil
  | cons d digits =>
      rw [hd] at heq hdigits
      have hdigit := Decimal.digit_le (hdigits d List.mem_cons_self)
      have hfirst := congrArg UInt8.toNat (List.cons.inj heq).1
      simp only [UInt8.toNat_ofNat'] at hfirst
      omega

/-- The leading digits decode to themselves, so nothing can follow them. -/
theorem eq_toDigits_of_unescape {c : Char} {rest : List Char} (hc : c.isDigit = true)
    (hle : strtol (c :: rest) ≤ 65535)
    (h : Query.unescape (c :: rest) =
      Query.utf8 (Nat.toDigits 10 (strtol (c :: rest)).toNat)) :
    c :: rest = Nat.toDigits 10 (strtol (c :: rest)).toNat := by
  have hdigits := (Decimal.plain_toDigits (strtol (c :: rest)).toNat).digits
  have hstrtol := strtol_cons_digit hc rest
  rw [leadingDigits_eq] at hstrtol
  obtain ⟨lead, tail, hsplit, hlead⟩ : ∃ lead tail, c :: rest = lead ++ tail ∧
      (c :: rest).takeWhile Char.isDigit = lead :=
    ⟨_, _, (List.takeWhile_append_dropWhile (p := Char.isDigit)).symm, rfl⟩
  rw [hlead] at hstrtol
  have hplain : Decimal.Plain lead := by
    refine ⟨?_, fun d hd => List.mem_takeWhile_imp (hlead ▸ hd)⟩
    rw [← hlead, List.takeWhile_cons_of_pos hc]
    exact List.cons_ne_nil _ _
  have hnumber : (strtol (c :: rest)).toNat = Decimal.value lead := by
    rw [hstrtol] at hle ⊢
    unfold longMax at hle ⊢
    omega
  rw [hnumber] at h hdigits ⊢
  rw [hsplit, Query.unescape_append (percent_notMem_digits hplain.digits)] at h
  have hlength := congrArg List.length h
  rw [List.length_append, utf8_digits hplain.digits, utf8_digits hdigits, List.length_map,
    List.length_map] at hlength
  have hshort := hplain.length_toDigits_le
  have htail : tail = [] := Query.unescape_eq_nil.mp
    (List.length_eq_zero_iff.mp (by omega))
  rw [hsplit, htail, List.append_nil]
  rw [htail, Query.unescape_nil, List.append_nil] at h
  exact Query.utf8_injective h

/-- The text of an accepted port decodes to the digits of its number only when it
is them. -/
theorem port_eq_of_unescape {port : String} (hport : isBetween 65535 port = true)
    (h : Query.unescape port.toList =
      Query.utf8 (Nat.toDigits 10 (strtol port.toList).toNat)) :
    port.toList = Nat.toDigits 10 (strtol port.toList).toNat := by
  obtain ⟨hpos, hle⟩ := isBetween_iff.mp hport
  revert hpos hle h
  generalize port.toList = text
  intro h hpos hle
  cases text with
  | nil => exact absurd hpos (by decide)
  | cons c rest =>
      rcases digit_or_skipped_of_strtol hpos with hc | hskipped
      · exact eq_toDigits_of_unescape hc hle h
      · exact absurd h (unescape_skipped_ne_digits hskipped rest _)

/-! ## The whole query -/

def protocolsValue (params : NMAirvpnGeneratorParams) : List Char :=
  "openvpn_3_".toList ++ (requestedProtocol params).toList ++ "_".toList ++
    (requestedPort params).toList

theorem buildGeneratorUrl_eq (params : NMAirvpnGeneratorParams) :
    buildGeneratorUrl params =
      airvpnGeneratorUrl.toList ++ '?' :: ("system".toList ++ '=' :: "linux".toList ++
        '&' :: ("download".toList ++ '=' :: "auto".toList ++
          '&' :: ("protocols".toList ++ '=' :: protocolsValue params ++
            '&' :: urlTail params))) := by
  have hhead : "?system=linux&download=auto".toList =
      '?' :: ("system".toList ++ '=' :: "linux".toList ++
        '&' :: ("download".toList ++ '=' :: "auto".toList)) := rfl
  have hprotocols : "&protocols=openvpn_3_".toList =
      '&' :: ("protocols".toList ++ '=' :: "openvpn_3_".toList) := rfl
  have hservers : "&servers=".toList = '&' :: "servers=".toList := rfl
  unfold buildGeneratorUrl urlTail protocolsValue requestedProtocol requestedPort
  rw [hhead, hprotocols, hservers]
  simp only [List.append_assoc, List.cons_append]

theorem urlQuery_append {base : List Char} (h : '?' ∉ base) (query : List Char) :
    urlQuery (base ++ '?' :: query) = query := by
  have hall : ∀ c ∈ base, decide (c ≠ '?') = true := fun c hc =>
    decide_eq_true fun heq => h (heq ▸ hc)
  rw [urlQuery, List.dropWhile_append_of_pos hall]
  simp

theorem decode_plain {name value : List Char} (heq : '=' ∉ name) (hamp : '&' ∉ name)
    (hvalue : '&' ∉ value) (hname : '%' ∉ name) (hpercent : '%' ∉ value) :
    Query.decode (name ++ '=' :: value) = [(Query.utf8 name, Query.utf8 value)] := by
  rw [Query.decode_field heq hamp hvalue, Query.unescape_plain hname,
    Query.unescape_plain hpercent]

theorem requestsAsMeant_iff_protocols (s : NMSettingVpn) :
    RequestsAsMeant s ↔
      Query.decode ("protocols".toList ++ '=' :: protocolsValue (getGeneratorParams s)) =
        [utf8Pair ("protocols", "openvpn_3_" ++ requestedProtocol (getGeneratorParams s) ++ "_" ++
          toString (portNumber (getGeneratorParams s)))] := by
  unfold RequestsAsMeant meantRequest
  generalize getGeneratorParams s = params
  have hsystem : Query.decode ("system".toList ++ '=' :: "linux".toList) =
      [utf8Pair ("system", "linux")] :=
    decode_plain (by decide) (by decide) (by decide) (by decide) (by decide)
  have hdownload : Query.decode ("download".toList ++ '=' :: "auto".toList) =
      [utf8Pair ("download", "auto")] :=
    decode_plain (by decide) (by decide) (by decide) (by decide) (by decide)
  rw [buildGeneratorUrl_eq, urlQuery_append (by decide), Query.decode_append,
    Query.decode_append, Query.decode_append, hsystem, hdownload, decode_urlTail]
  simp only [List.cons_append, List.nil_append, List.map_cons, List.cons.injEq, true_and]
  rw [← List.singleton_append (x := utf8Pair ("protocols", _))]
  exact ⟨fun h => List.append_cancel_right h, fun h => by rw [h]⟩

theorem protocol_plain {params : NMAirvpnGeneratorParams} (h : protocolListed params) :
    '&' ∉ (requestedProtocol params).toList ∧ '%' ∉ (requestedProtocol params).toList := by
  unfold requestedProtocol
  rcases h with h | h | h <;> rw [h] <;> decide

theorem requestedPort_eq {s : NMSettingVpn} (hs : nmAirvpnPropertiesValidate s = .ok ()) :
    requestedPort (getGeneratorParams s) = (s.getDataItem keyPort).getD defaultPort := by
  have hpass := (nmAirvpnPropertiesValidate_eq_ok.mp hs).2.2.1
  have hparams : (getGeneratorParams s).port = s.getDataItem keyPort := rfl
  unfold requestedPort
  rw [hparams]
  cases hport : s.getDataItem keyPort with
  | none => rfl
  | some port =>
      rw [nonEmpty_some (ne_empty_of_isBetween (hpass port hport))]

theorem decode_protocols_iff {params : NMAirvpnGeneratorParams} (hlisted : protocolListed params)
    (hport : isBetween 65535 (requestedPort params) = true) :
    Query.decode ("protocols".toList ++ '=' :: protocolsValue params) =
        [utf8Pair ("protocols", "openvpn_3_" ++ requestedProtocol params ++ "_" ++
          toString (portNumber params))] ↔
      (requestedPort params).toList = Nat.toDigits 10 (portNumber params) := by
  obtain ⟨hamp, hpercent⟩ := protocol_plain hlisted
  have hhead : '&' ∉ "openvpn_3_".toList ++ (requestedProtocol params).toList ++ "_".toList ∧
      '%' ∉ "openvpn_3_".toList ++ (requestedProtocol params).toList ++ "_".toList := by
    simp only [List.mem_append, hamp, hpercent]
    decide
  unfold protocolsValue utf8Pair
  generalize hheadText : "openvpn_3_".toList ++ (requestedProtocol params).toList ++ "_".toList =
    head at hhead
  have hmeant : ("openvpn_3_" ++ requestedProtocol params ++ "_" ++
      toString (portNumber params)).toList = head ++ Nat.toDigits 10 (portNumber params) := by
    rw [← hheadText]
    simp
  rw [hmeant]
  constructor
  · intro h
    have hfield := Query.amp_notMem_of_decode (by rw [h]; rfl)
    have hvalue : '&' ∉ head ++ (requestedPort params).toList := fun hm =>
      hfield (List.mem_append_right _ (List.mem_cons_of_mem _ hm))
    rw [Query.decode_field (by decide) (by decide) hvalue, Query.unescape_append hhead.2] at h
    have hvalues := (Prod.mk.inj (List.singleton_inj.mp h)).2
    rw [Query.utf8_append] at hvalues
    exact port_eq_of_unescape hport (List.append_cancel_left hvalues)
  · intro h
    have hdigits := (Decimal.plain_toDigits (portNumber params)).digits
    rw [h]
    apply decode_plain (by decide) (by decide) _ (by decide) _
    · simp only [List.mem_append, hhead.1, false_or]
      exact fun hm => absurd (hdigits _ hm) (by decide)
    · simp only [List.mem_append, hhead.2, false_or]
      exact percent_notMem_digits hdigits

/-- A setting that is accepted makes the request that it means exactly when its
port, if it has one, is written in the shortest way. -/
theorem requests_as_meant_iff {s : NMSettingVpn} (hs : nmAirvpnPropertiesValidate s = .ok ()) :
    RequestsAsMeant s ↔
      ∀ port, s.getDataItem keyPort = some port →
        port.toList = Nat.toDigits 10 (strtol port.toList).toNat := by
  have hpass := (nmAirvpnPropertiesValidate_eq_ok.mp hs).2.2.1
  have haccepted : isBetween 65535 (requestedPort (getGeneratorParams s)) = true := by
    rw [requestedPort_eq hs]
    cases hport : s.getDataItem keyPort with
    | none => decide
    | some port => exact hpass port hport
  rw [requestsAsMeant_iff_protocols, decode_protocols_iff (protocolListed_of_accepted hs) haccepted]
  unfold portNumber
  rw [requestedPort_eq hs]
  cases s.getDataItem keyPort with
  | none =>
      simp only [reduceCtorEq, false_implies, implies_true, iff_true]
      decide
  | some port => simp

theorem requests_as_meant_sample : RequestsAsMeant (sampleSetting "ch" "laptop & phone") :=
  (requests_as_meant_iff (by rfl)).mpr fun port hport => by
    cases hport

/-- The port is a number and another device. -/
def sampleSmuggled : NMSettingVpn where
  data := [(keyServer, "ch"), (keyPort, "443&device=backup")]
  secrets := []
  data_nodup := by decide
  secrets_nodup := List.nodup_nil

theorem port_adds_parameter :
    nmAirvpnPropertiesValidate sampleSmuggled = .ok () ∧ ¬ RequestsAsMeant sampleSmuggled := by
  refine ⟨by rfl, fun h => ?_⟩
  have hlength := congrArg List.length h
  revert hlength
  decide +kernel

end AirVpn
