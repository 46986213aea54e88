import AirVpn.Lib.Text
import AirVpn.Model.Cache

/-! # The cache key and the generator request

The cache key is the digest of the five parameters joined with `|`, which may
occur inside them. The URL of the request keeps the parameters apart. So two
requests share a key exactly when the same pieces are grouped into parameters
in two ways.
-/

namespace AirVpn.Cache

/-! ## Escaped values -/

theorem hexDigit_inj : ∀ m < 16, ∀ n < 16, hexDigit m = hexDigit n → m = n := by decide

theorem toNat_ofNat : ∀ n < 256, (Char.ofNat n).toNat = n := by decide +kernel

theorem ofNat_ne_percent {b : UInt8} (h : isUnreserved b = true) : Char.ofNat b.toNat ≠ '%' := by
  intro heq
  have hv := congrArg Char.toNat heq
  rw [toNat_ofNat b.toNat b.toNat_lt] at hv
  have hb : b = 37 := UInt8.toNat_inj.mp hv
  subst hb
  exact absurd h (by decide)

theorem percentEncode_prefixCode : Text.PrefixCode percentEncode where
  eq_of_prefix := by
    intro a b h
    have hal := a.toNat_lt
    have hbl := b.toNat_lt
    unfold percentEncode at h
    split at h
    · rename_i ha
      split at h
      · have hc := congrArg Char.toNat (List.cons_prefix_cons.mp h).1
        rw [toNat_ofNat _ hal, toNat_ofNat _ hbl] at hc
        exact UInt8.toNat_inj.mp hc
      · exact absurd (List.cons_prefix_cons.mp h).1 (ofNat_ne_percent ha)
    · split at h
      · exact absurd h.length_le (by simp)
      · simp only [List.cons_prefix_cons, List.nil_prefix, and_true, true_and] at h
        have hdiv := hexDigit_inj _ (by omega) _ (by omega) h.1
        have hmod := hexDigit_inj _ (by omega) _ (by omega) h.2
        exact UInt8.toNat_inj.mp (by omega)
  ne_nil := by
    intro a
    unfold percentEncode
    split <;> simp

theorem curlEasyEscape_injective : Function.Injective curlEasyEscape := by
  intro s t h
  have hbytes := percentEncode_prefixCode.flatMap_injective h
  exact String.toByteArray_inj.mp (ByteArray.ext (Array.toList_inj.mp hbytes))

theorem amp_notMem_percentEncode : ∀ n : Fin 256, '&' ∉ percentEncode (UInt8.ofFin n) := by
  decide +kernel

theorem amp_notMem_escape (s : String) : '&' ∉ curlEasyEscape s := by
  intro h
  obtain ⟨b, _, hb⟩ := List.mem_flatMap.mp h
  exact amp_notMem_percentEncode b.toFin hb

/-! ## Reading a URL back -/

/-- One parameter of the query that is there when its value is: it can be cut
off, unless the query before it ends with a parameter of that name. -/
theorem optionalParam_cancel {name : String} {field : List Char}
    (hname : name.toList = '&' :: field) (hamp : '&' ∉ field) {a b : List Char}
    (ha : ¬ field <+: Text.afterLast '&' a)
    (hb : ¬ field <+: Text.afterLast '&' b) {x y : Option String}
    (h : a ++ optionalParam name x = b ++ optionalParam name y) :
    a = b ∧ nonEmpty x = nonEmpty y := by
  have hfield : ∀ v, '&' ∉ field ++ curlEasyEscape v := by
    intro v hmem
    rcases List.mem_append.mp hmem with hmem | hmem
    · exact hamp hmem
    · exact amp_notMem_escape v hmem
  -- With the parameter on one side only, the last parameter of the other side has its name.
  have hlast : ∀ (c : List Char) (v : String),
      field <+: Text.afterLast '&' (c ++ '&' :: (field ++ curlEasyEscape v)) := by
    intro c v
    rw [Text.afterLast_append (hfield v)]
    exact List.prefix_append _ _
  unfold optionalParam at h
  cases hx : nonEmpty x with
  | none =>
      cases hy : nonEmpty y with
      | none =>
          simp only [hx, hy, List.append_nil] at h
          exact ⟨h, rfl⟩
      | some w =>
          simp only [hx, hy, hname, List.append_nil, List.cons_append] at h
          exact absurd (h ▸ hlast b w) ha
  | some v =>
      cases hy : nonEmpty y with
      | none =>
          simp only [hx, hy, hname, List.append_nil, List.cons_append] at h
          exact absurd (h ▸ hlast a v) hb
      | some w =>
          simp only [hx, hy, hname, List.cons_append] at h
          obtain ⟨hab, hvw⟩ := Text.append_cons_inj_last (hfield v) (hfield w) h
          have hvw := curlEasyEscape_injective (List.append_cancel_left hvw)
          exact ⟨hab, congrArg some hvw⟩

theorem afterLast_servers (head : List Char) (server : String) :
    Text.afterLast '&' (head ++ "&servers=".toList ++ curlEasyEscape server) =
      "servers=".toList ++ curlEasyEscape server := by
  have hamp : '&' ∉ "servers=".toList ++ curlEasyEscape server := by
    intro hmem
    rcases List.mem_append.mp hmem with hmem | hmem
    · exact absurd hmem (by decide)
    · exact amp_notMem_escape server hmem
  rw [List.append_assoc]
  exact Text.afterLast_append hamp head

theorem directives_not_last (head : List Char) (server : String) (device : Option String) :
    ¬ "openvpn_directives=".toList <+: Text.afterLast '&'
      (head ++ "&servers=".toList ++ curlEasyEscape server ++ optionalParam "&device=" device) := by
  unfold optionalParam
  cases nonEmpty device with
  | none =>
      rw [List.append_nil, afterLast_servers]
      intro h
      exact absurd (List.cons_prefix_cons.mp h).1 (by decide)
  | some v =>
      have hamp : '&' ∉ "device=".toList ++ curlEasyEscape v := by
        intro hmem
        rcases List.mem_append.mp hmem with hmem | hmem
        · exact absurd hmem (by decide)
        · exact amp_notMem_escape v hmem
      have hlast := Text.afterLast_append hamp
        (head ++ "&servers=".toList ++ curlEasyEscape server)
      intro h
      exact absurd (List.cons_prefix_cons.mp (hlast ▸ h)).1 (by decide)

/-- A query tells the parameters pasted before the server, and the escaped
ones. -/
theorem query_inj {head head' : List Char} {server server' : String}
    {device device' directives directives' : Option String}
    (h : head ++ "&servers=".toList ++ curlEasyEscape server ++ optionalParam "&device=" device ++
        optionalParam "&openvpn_directives=" directives =
      head' ++ "&servers=".toList ++ curlEasyEscape server' ++ optionalParam "&device=" device' ++
        optionalParam "&openvpn_directives=" directives') :
    head = head' ∧ server = server' ∧ nonEmpty device = nonEmpty device' ∧
      nonEmpty directives = nonEmpty directives' := by
  have hdevice : ∀ (head : List Char) (server : String), ¬ "device=".toList <+:
      Text.afterLast '&' (head ++ "&servers=".toList ++ curlEasyEscape server) := by
    intro head server hp
    rw [afterLast_servers] at hp
    exact absurd (List.cons_prefix_cons.mp hp).1 (by decide)
  obtain ⟨h, hdirectives⟩ := optionalParam_cancel rfl (by decide)
    (directives_not_last head server device) (directives_not_last head' server' device') h
  obtain ⟨h, hdevices⟩ := optionalParam_cancel rfl (by decide) (hdevice head server)
    (hdevice head' server') h
  have hlast := congrArg (Text.afterLast '&') h
  rw [afterLast_servers, afterLast_servers] at hlast
  have hserver := curlEasyEscape_injective (List.append_cancel_left hlast)
  subst hserver
  have hhead := List.append_cancel_right (List.append_cancel_right h)
  exact ⟨hhead, rfl, hdevices, hdirectives⟩

/-! ## Accepted parameters -/

def protocolListed (params : NMAirvpnGeneratorParams) : Prop :=
  params.protocol = none ∨ params.protocol = some protocolUdp ∨ params.protocol = some protocolTcp

theorem protocolListed_of_accepted {s : NMSettingVpn} (h : nmAirvpnPropertiesValidate s = .ok ()) :
    protocolListed (getGeneratorParams s) := by
  have hpass := (nmAirvpnPropertiesValidate_eq_ok.mp h).2.1
  unfold protocolListed getGeneratorParams
  cases hv : s.getDataItem keyProtocol with
  | none => exact .inl rfl
  | some value =>
      have hvalue := hpass value hv
      simp only [isProtocol, Bool.or_eq_true, decide_eq_true_eq] at hvalue
      rcases hvalue with hvalue | hvalue
      · exact .inr (.inl (congrArg some hvalue))
      · exact .inr (.inr (congrArg some hvalue))

def requestedProtocol (params : NMAirvpnGeneratorParams) : String :=
  (nonEmpty params.protocol).getD protocolUdp

theorem underscore_notMem_protocol {params : NMAirvpnGeneratorParams} (h : protocolListed params) :
    '_' ∉ (requestedProtocol params).toList := by
  unfold requestedProtocol
  rcases h with h | h | h <;> rw [h] <;> decide

theorem bar_notMem_protocol {params : NMAirvpnGeneratorParams} (h : protocolListed params) :
    '|' ∉ (orEmpty params.protocol).toList := by
  rcases h with h | h | h <;> rw [h] <;> decide

def requestedPort (params : NMAirvpnGeneratorParams) : String :=
  (nonEmpty params.port).getD defaultPort

theorem buildGeneratorUrl_eq_iff {p q : NMAirvpnGeneratorParams} (hp : protocolListed p)
    (hq : protocolListed q) :
    buildGeneratorUrl p = buildGeneratorUrl q ↔
      orEmpty p.server = orEmpty q.server ∧ nonEmpty p.device = nonEmpty q.device ∧
        requestedProtocol p = requestedProtocol q ∧ requestedPort p = requestedPort q ∧
        nonEmpty p.customDirectives = nonEmpty q.customDirectives := by
  constructor
  · intro h
    obtain ⟨hhead, hserver, hdevice, hdirectives⟩ := query_inj h
    simp only [List.append_assoc, List.append_cancel_left_eq] at hhead
    obtain ⟨hprotocol, hport⟩ := Text.append_cons_inj_first (underscore_notMem_protocol hp)
      (underscore_notMem_protocol hq) hhead
    exact ⟨hserver, hdevice, String.toList_inj.mp hprotocol, String.toList_inj.mp hport,
      hdirectives⟩
  · rintro ⟨hserver, hdevice, hprotocol, hport, hdirectives⟩
    unfold requestedProtocol at hprotocol
    unfold requestedPort at hport
    unfold buildGeneratorUrl optionalParam
    rw [hserver, hdevice, hprotocol, hport, hdirectives]

/-! ## What a key tells -/

def fields (params : NMAirvpnGeneratorParams) : List (List Char) :=
  [params.server, params.device, params.protocol, params.port, params.customDirectives].map
    fun value => (orEmpty value).toList

/-- The values, each cut at its `|`. -/
def grouping (params : NMAirvpnGeneratorParams) : List (List (List Char)) :=
  (fields params).map (List.splitOn '|')

/-- The same pieces in the same order, with another number of them in some
parameter. -/
def Regrouped (p q : NMAirvpnGeneratorParams) : Prop :=
  (grouping p).flatten = (grouping q).flatten ∧
    (grouping p).map List.length ≠ (grouping q).map List.length

instance (p q : NMAirvpnGeneratorParams) : Decidable (Regrouped p q) :=
  inferInstanceAs (Decidable (_ ∧ _))

theorem joinedParams_toList (params : NMAirvpnGeneratorParams) :
    (joinedParams params).toList = ['|'].intercalate (fields params) := by
  simp [joinedParams, fields, List.intercalate, List.intersperse]

theorem joinedParams_eq_iff {p q : NMAirvpnGeneratorParams} :
    joinedParams p = joinedParams q ↔ (grouping p).flatten = (grouping q).flatten := by
  rw [← String.toList_inj, joinedParams_toList, joinedParams_toList]
  exact Text.intercalate_eq_iff '|' (List.cons_ne_nil _ _) (List.cons_ne_nil _ _)

theorem regrouped_iff {p q : NMAirvpnGeneratorParams} :
    Regrouped p q ↔ joinedParams p = joinedParams q ∧ fields p ≠ fields q := by
  have hgroup : grouping p = grouping q ↔ fields p = fields q := Text.map_splitOn_inj '|'
  rw [List.eq_iff_flatten_eq] at hgroup
  rw [joinedParams_eq_iff]
  constructor
  · rintro ⟨hflat, hlengths⟩
    exact ⟨hflat, fun hfields => hlengths (hgroup.mpr hfields).2⟩
  · rintro ⟨hflat, hfields⟩
    exact ⟨hflat, fun hlengths => hfields (hgroup.mp ⟨hflat, hlengths⟩)⟩

theorem fields_eq_iff {p q : NMAirvpnGeneratorParams} :
    fields p = fields q ↔
      orEmpty p.server = orEmpty q.server ∧ orEmpty p.device = orEmpty q.device ∧
        orEmpty p.protocol = orEmpty q.protocol ∧ orEmpty p.port = orEmpty q.port ∧
        orEmpty p.customDirectives = orEmpty q.customDirectives := by
  simp [fields, String.toList_inj]

theorem orEmpty_eq_iff {x y : Option String} : orEmpty x = orEmpty y ↔ nonEmpty x = nonEmpty y := by
  have hkey : ∀ z : Option String, orEmpty z = (nonEmpty z).getD "" := by
    intro z
    cases z with
    | none => rfl
    | some v => by_cases hv : v = "" <;> simp [orEmpty, nonEmpty, Option.filter, hv]
  have hback : ∀ z : Option String,
      nonEmpty z = if orEmpty z = "" then none else some (orEmpty z) := by
    intro z
    cases z with
    | none => rfl
    | some v => by_cases hv : v = "" <;> simp [orEmpty, nonEmpty, Option.filter, hv]
  constructor
  · intro h
    rw [hback x, hback y, h]
  · intro h
    rw [hkey x, hkey y, h]

theorem url_eq_iff_fields_eq {p q : NMAirvpnGeneratorParams} (hp : protocolListed p)
    (hq : protocolListed q) (hjoined : joinedParams p = joinedParams q) :
    buildGeneratorUrl p = buildGeneratorUrl q ↔ fields p = fields q := by
  rw [buildGeneratorUrl_eq_iff hp hq, fields_eq_iff]
  constructor
  · rintro ⟨hserver, hdevice, -, -, hdirectives⟩
    have hdevice := orEmpty_eq_iff.mpr hdevice
    have hdirectives := orEmpty_eq_iff.mpr hdirectives
    -- Only protocol and port are left of the joined strings.
    have hrest := congrArg String.toList hjoined
    simp only [joinedParams, String.toList_append, hserver, hdevice, hdirectives,
      List.append_assoc, List.append_cancel_left_eq] at hrest
    obtain ⟨hprotocol, hport⟩ := Text.append_cons_inj_first (bar_notMem_protocol hp)
      (bar_notMem_protocol hq) hrest
    have hport : (orEmpty p.port).toList ++ _ = (orEmpty q.port).toList ++ _ := hport
    have hport := List.append_cancel_right hport
    exact ⟨hserver, hdevice, String.toList_inj.mp hprotocol, String.toList_inj.mp hport,
      hdirectives⟩
  · rintro ⟨hserver, hdevice, hprotocol, hport, hdirectives⟩
    refine ⟨hserver, orEmpty_eq_iff.mp hdevice, ?_, ?_, orEmpty_eq_iff.mp hdirectives⟩
    · unfold requestedProtocol
      rw [orEmpty_eq_iff.mp hprotocol]
    · unfold requestedPort
      rw [orEmpty_eq_iff.mp hport]

/-! ## Requests that share a key -/

/-- The key tells the requests for `p` and `q` apart if they differ. -/
def KeySeparates (sha256 : String → String) (p q : NMAirvpnGeneratorParams) : Prop :=
  paramsHash sha256 p = paramsHash sha256 q → buildGeneratorUrl p = buildGeneratorUrl q

/-- A profile stored for `p` is accepted for `q` only if the requests are the
same. -/
def ServedAsRequested (sha256 : String → String) (p q : NMAirvpnGeneratorParams) : Prop :=
  ∀ (statedir : String) (io : FileOps) (uuid : Uuid) (config : String) (fetched now : Int)
    (acceptStale : Bool) (disk : Disk),
    let stored := nmAirvpnCacheStore sha256 statedir io uuid p config fetched disk
    stored.2 = .ok () → checkCache sha256 statedir uuid q acceptStale now stored.1 = true →
      buildGeneratorUrl p = buildGeneratorUrl q

theorem not_regrouped_iff {p q : NMAirvpnGeneratorParams} {sha256 : String → String}
    (hsha : sha256 (joinedParams p) = sha256 (joinedParams q) → joinedParams p = joinedParams q)
    (hp : protocolListed p) (hq : protocolListed q) :
    ¬ Regrouped p q ↔ KeySeparates sha256 p q := by
  rw [regrouped_iff]
  constructor
  · intro hsame hhash
    have hjoined := hsha hhash
    apply (url_eq_iff_fields_eq hp hq hjoined).mpr
    by_contra hfields
    exact hsame ⟨hjoined, hfields⟩
  · rintro hkey ⟨hjoined, hfields⟩
    have hurl := hkey (congrArg sha256 hjoined)
    exact hfields ((url_eq_iff_fields_eq hp hq hjoined).mp hurl)

theorem exists_store_iff {sha256 : String → String} {statedir : String} {io : FileOps} {uuid : Uuid}
    {p q : NMAirvpnGeneratorParams} {config : String} {now : Int} {disk : Disk}
    (h : (nmAirvpnCacheStore sha256 statedir io uuid p config now disk).2 = .ok ()) :
    nmAirvpnCacheExists sha256 statedir uuid q
        (nmAirvpnCacheStore sha256 statedir io uuid p config now disk).1 = true ↔
      paramsHash sha256 p = paramsHash sha256 q := by
  obtain ⟨hconfig, hmeta⟩ := files_of_store_ok h
  simp [exists_iff, hconfig, hmeta]

theorem servedAsRequested_iff {sha256 : String → String} {p q : NMAirvpnGeneratorParams} :
    ServedAsRequested sha256 p q ↔ KeySeparates sha256 p q := by
  constructor
  · intro hserved hhash
    have hok : (nmAirvpnCacheStore sha256 sampleStatedir (sampleFileOps []) sampleUuid p "" 0
        fun _ => none).2 = .ok () := rfl
    exact hserved _ _ _ _ _ 0 true _ hok ((exists_store_iff hok).mpr hhash)
  · intro hkey statedir io uuid config fetched now acceptStale disk stored hok haccept
    exact hkey ((exists_store_iff hok).mp (exists_of_checkCache haccept))

/-- The key of accepted settings separates their requests, and the profile
stored for the one is not served for the other, exactly unless the same pieces
are grouped in two ways. -/
theorem key_separates_iff {sha256 : String → String} {s t : NMSettingVpn}
    (hs : nmAirvpnPropertiesValidate s = .ok ()) (ht : nmAirvpnPropertiesValidate t = .ok ())
    (hsha : sha256 (joinedParams (getGeneratorParams s)) =
        sha256 (joinedParams (getGeneratorParams t)) →
      joinedParams (getGeneratorParams s) = joinedParams (getGeneratorParams t)) :
    (KeySeparates sha256 (getGeneratorParams s) (getGeneratorParams t) ↔
        ¬ Regrouped (getGeneratorParams s) (getGeneratorParams t)) ∧
      (ServedAsRequested sha256 (getGeneratorParams s) (getGeneratorParams t) ↔
        ¬ Regrouped (getGeneratorParams s) (getGeneratorParams t)) := by
  have hkey := not_regrouped_iff hsha (protocolListed_of_accepted hs)
    (protocolListed_of_accepted ht)
  exact ⟨hkey.symm, servedAsRequested_iff.trans hkey.symm⟩

def sampleSetting (server device : String) : NMSettingVpn where
  data := [(keyServer, server), (keyDevice, device)]
  secrets := []
  data_nodup := by simp [keyServer, keyDevice]
  secrets_nodup := List.nodup_nil

theorem key_separates_sample :
    (KeySeparates sampleSha256 (getGeneratorParams (sampleSetting "ch" ""))
        (getGeneratorParams (sampleSetting "nl" "")) ↔
        ¬ Regrouped (getGeneratorParams (sampleSetting "ch" ""))
          (getGeneratorParams (sampleSetting "nl" ""))) ∧
      (ServedAsRequested sampleSha256 (getGeneratorParams (sampleSetting "ch" ""))
        (getGeneratorParams (sampleSetting "nl" "")) ↔
        ¬ Regrouped (getGeneratorParams (sampleSetting "ch" ""))
          (getGeneratorParams (sampleSetting "nl" ""))) :=
  key_separates_iff (by decide) (by decide) (by decide +kernel)

/-- The device `my|laptop` on the server `ch`, and the device `laptop` on the
server `ch|my`: both settings are accepted, the requests differ, the keys do
not, and the profile of the first is served for the second. -/
theorem regrouped_request_served :
    nmAirvpnPropertiesValidate (sampleSetting "ch" "my|laptop") = .ok () ∧
      nmAirvpnPropertiesValidate (sampleSetting "ch|my" "laptop") = .ok () ∧
      buildGeneratorUrl (getGeneratorParams (sampleSetting "ch" "my|laptop")) ≠
        buildGeneratorUrl (getGeneratorParams (sampleSetting "ch|my" "laptop")) ∧
      ∀ sha256 : String → String,
        paramsHash sha256 (getGeneratorParams (sampleSetting "ch" "my|laptop")) =
            paramsHash sha256 (getGeneratorParams (sampleSetting "ch|my" "laptop")) ∧
          checkCache sha256 sampleStatedir sampleUuid
            (getGeneratorParams (sampleSetting "ch|my" "laptop")) false 2000
            (nmAirvpnCacheStore sha256 sampleStatedir (sampleFileOps []) sampleUuid
              (getGeneratorParams (sampleSetting "ch" "my|laptop")) "client" 1000
              fun _ => none).1 = true := by
  refine ⟨by decide, by decide, by decide +kernel, fun sha256 => ?_⟩
  have hkey : paramsHash sha256 (getGeneratorParams (sampleSetting "ch" "my|laptop")) =
      paramsHash sha256 (getGeneratorParams (sampleSetting "ch|my" "laptop")) :=
    congrArg sha256 (by decide)
  have hok : (nmAirvpnCacheStore sha256 sampleStatedir (sampleFileOps []) sampleUuid
      (getGeneratorParams (sampleSetting "ch" "my|laptop")) "client" 1000 fun _ => none).2 =
      .ok () := rfl
  obtain ⟨hconfig, hmeta⟩ := files_of_store_ok hok
  exact ⟨hkey, by simp [checkCache, hconfig, hmeta, hkey, cacheMaxAgeSeconds]⟩

end AirVpn.Cache
