import AirVpn.Model.Properties

/-! # The settings that are accepted

What a well-formed setting is, and what the validation accepts: the same checks
with a suffix rule for the names and with numbers read by `strtol`. The two agree
but for items that only the lenient reading admits.
-/

namespace AirVpn

/-! ## Forms -/

def dataItemNames : List String :=
  [keyServer, keyDevice, keyProtocol, keyPort, keyCustomDirectives, keyKeepalive,
    keyPingInterval, keyPingRestart, keyKillSwitch, keyAllowLan]

def apiKeyFlags : String := "api-key-flags"

def numberItems : List (String × Nat) :=
  [(keyPort, 65535), (keyPingInterval, 3600), (keyPingRestart, 3600)]

def yesNoItems : List String := [keyKeepalive, keyKillSwitch, keyAllowLan]

/-- The form of the data items, for a notion of a flags item and of a number. -/
structure Formed (flags : String → Prop) (number : Nat → String → Prop)
    (data : List (String × String)) : Prop where
  names : ∀ item ∈ data, item.1 ∈ dataItemNames ∨ flags item.1
  server : ∃ value, (keyServer, value) ∈ data
  protocol : ∀ value, (keyProtocol, value) ∈ data → value = protocolUdp ∨ value = protocolTcp
  yesNo : ∀ key ∈ yesNoItems, ∀ value, (key, value) ∈ data → value = "yes" ∨ value = "no"
  numbers : ∀ item ∈ numberItems, ∀ value, (item.1, value) ∈ data → number item.2 value

def IsNumber (bound : Nat) (value : String) : Prop :=
  Decimal.Plain value.toList ∧ 1 ≤ Decimal.value value.toList ∧ Decimal.value value.toList ≤ bound

def WellFormed (data : List (String × String)) : Prop := Formed (· = apiKeyFlags) IsNumber data

/-- Any flags item, and numbers with whatever `strtol` skips and ignores. -/
def LenientlyFormed (data : List (String × String)) : Prop :=
  Formed (isFlags · = true) (fun bound value => isBetween bound value = true) data

theorem Formed.mono {flags flags' : String → Prop} {number number' : Nat → String → Prop}
    {data : List (String × String)} (h : Formed flags number data)
    (hflags : ∀ item ∈ data, flags item.1 → flags' item.1)
    (hnumber : ∀ item ∈ numberItems, ∀ value, (item.1, value) ∈ data → number item.2 value →
      number' item.2 value) :
    Formed flags' number' data where
  names item hitem := (h.names item hitem).imp_right (hflags item hitem)
  server := h.server
  protocol := h.protocol
  yesNo := h.yesNo
  numbers item hitem value hv := hnumber item hitem value hv (h.numbers item hitem value hv)

theorem Formed.perm {flags : String → Prop} {number : Nat → String → Prop}
    {data data' : List (String × String)} (h : Formed flags number data)
    (hp : ∀ item, item ∈ data' ↔ item ∈ data) : Formed flags number data' where
  names item hitem := h.names item ((hp item).mp hitem)
  server := h.server.imp fun _ hv => (hp _).mpr hv
  protocol value hv := h.protocol value ((hp _).mp hv)
  yesNo key hkey value hv := h.yesNo key hkey value ((hp _).mp hv)
  numbers item hitem value hv := h.numbers item hitem value ((hp _).mp hv)

theorem isBetween_iff {bound : Int} {value : String} :
    isBetween bound value = true ↔ 0 < strtol value.toList ∧ strtol value.toList ≤ bound := by
  simp [isBetween]

theorem ne_empty_of_isBetween {bound : Int} {value : String} (h : isBetween bound value = true) :
    value ≠ "" := by
  rintro rfl
  exact absurd (isBetween_iff.mp h).1 (by decide)

theorem isNumber_iff {bound : Nat} (hbound : bound ≤ 65535) (value : String) :
    IsNumber bound value ↔ Decimal.Plain value.toList ∧ isBetween bound value = true := by
  unfold IsNumber
  refine and_congr_right fun hplain => ?_
  rw [isBetween_iff, strtol_of_plain hplain]
  unfold longMax
  omega

theorem numberItems_bound : ∀ item ∈ numberItems, item.2 ≤ 65535 := by decide

theorem not_isFlags_of_name : ∀ name ∈ dataItemNames, isFlags name = false := by decide +kernel

theorem isFlags_apiKeyFlags : isFlags apiKeyFlags = true := by decide +kernel

/-! ## The validation -/

theorem any_validProperties (name : String) :
    validProperties.any (·.name = name) = true ↔ name ∈ dataItemNames := by
  have hnames : validProperties.map (·.name) = dataItemNames := rfl
  rw [← hnames, List.any_eq_true, List.mem_map]
  simp only [decide_eq_true_eq]

theorem listed_validProperties {data : List (String × String)} :
    Listed validProperties data ↔
      (∀ item ∈ data, item.1 ∈ dataItemNames ∨ isFlags item.1 = true) ∧
        ∃ value, (keyServer, value) ∈ data := by
  constructor
  · rintro ⟨hknown, hreq⟩
    refine ⟨fun item hitem => ?_, ?_⟩
    · exact (hknown item hitem).symm.imp_left (any_validProperties item.1).mp
    · obtain ⟨⟨key, value⟩, hitem, rfl, _⟩ := hreq ⟨keyServer, true⟩ (by simp [validProperties]) rfl
      exact ⟨value, hitem⟩
  · rintro ⟨hnames, value, hserver⟩
    refine ⟨fun item hitem => ?_, fun p hp hreq => ?_⟩
    · exact ((hnames item hitem).imp_left (any_validProperties item.1).mpr).symm
    · have hname : p.name = keyServer := by
        simp only [validProperties, List.mem_cons, List.not_mem_nil, or_false] at hp
        rcases hp with rfl | rfl | rfl | rfl | rfl | rfl | rfl | rfl | rfl | rfl
        · rfl
        all_goals cases hreq
      exact ⟨_, hserver, hname.symm, hname ▸ not_isFlags_of_name _ (by simp [dataItemNames])⟩

theorem validate_eq_ok_iff (s : NMSettingVpn) :
    nmAirvpnPropertiesValidate s = .ok () ↔ LenientlyFormed s.data := by
  rw [nmAirvpnPropertiesValidate_eq_ok, validateProperties_eq_ok, listed_validProperties]
  simp only [Passes, NMSettingVpn.getDataItem_eq_some]
  constructor
  · rintro ⟨⟨hnames, hserver⟩, hprotocol, hport, hkeep, hkill, hlan, hinterval, hrestart⟩
    refine ⟨hnames, hserver, fun value hv => ?_, fun key hkey value hv => ?_,
      fun item hitem value hv => ?_⟩
    · simpa [isProtocol] using hprotocol value hv
    · simp only [yesNoItems, List.mem_cons, List.not_mem_nil, or_false] at hkey
      rcases hkey with rfl | rfl | rfl
      · simpa [isYesNo] using hkeep value hv
      · simpa [isYesNo] using hkill value hv
      · simpa [isYesNo] using hlan value hv
    · simp only [numberItems, List.mem_cons, List.not_mem_nil, or_false] at hitem
      rcases hitem with rfl | rfl | rfl
      · exact hport value hv
      · exact hinterval value hv
      · exact hrestart value hv
  · rintro ⟨hnames, hserver, hprotocol, hyesNo, hnumbers⟩
    have hbool : ∀ key ∈ yesNoItems, ∀ value, (key, value) ∈ s.data → isYesNo value = true := by
      intro key hkey value hv
      simpa [isYesNo] using hyesNo key hkey value hv
    exact ⟨⟨hnames, hserver⟩, fun value hv => by simpa [isProtocol] using hprotocol value hv,
      hnumbers (keyPort, 65535) (by simp [numberItems]),
      hbool keyKeepalive (by simp [yesNoItems]), hbool keyKillSwitch (by simp [yesNoItems]),
      hbool keyAllowLan (by simp [yesNoItems]),
      hnumbers (keyPingInterval, 3600) (by simp [numberItems]),
      hnumbers (keyPingRestart, 3600) (by simp [numberItems])⟩

/-! ## Where the two readings differ -/

/-- A flags item of no secret, or a number with something around it, in a setting
that is otherwise in order. -/
def LenientCorner (data : List (String × String)) : Prop :=
  LenientlyFormed data ∧
    ((∃ item ∈ data, isFlags item.1 = true ∧ item.1 ≠ apiKeyFlags) ∨
      ∃ item ∈ numberItems, ∃ value, (item.1, value) ∈ data ∧ ¬ Decimal.Plain value.toList)

theorem WellFormed.lenient {data : List (String × String)} (h : WellFormed data) :
    LenientlyFormed data :=
  h.mono (fun _ _ hf => hf ▸ isFlags_apiKeyFlags)
    fun item hitem value _ hn => ((isNumber_iff (numberItems_bound item hitem) value).mp hn).2

theorem wellFormed_iff {data : List (String × String)} :
    WellFormed data ↔ LenientlyFormed data ∧ ¬ LenientCorner data := by
  constructor
  · intro h
    refine ⟨h.lenient, ?_⟩
    rintro ⟨_, ⟨item, hitem, hf, hne⟩ | ⟨item, hitem, value, hv, hn⟩⟩
    · rcases h.names item hitem with hname | hname
      · exact absurd (hf.symm.trans (not_isFlags_of_name _ hname)) (by decide)
      · exact hne hname
    · exact hn (h.numbers item hitem value hv).1
  · rintro ⟨h, hcorner⟩
    refine h.mono (fun item hitem hf => ?_) fun item hitem value hv hn => ?_
    · by_contra hne
      exact hcorner ⟨h, .inl ⟨item, hitem, hf, hne⟩⟩
    · refine (isNumber_iff (numberItems_bound item hitem) value).mpr ⟨?_, hn⟩
      by_contra hplain
      exact hcorner ⟨h, .inr ⟨item, hitem, value, hv, hplain⟩⟩

/-- In every order of the items, the validation accepts a well-formed setting and
refuses every other one with an error. -/
def AcceptsWellFormed (s : NMSettingVpn) : Prop :=
  ∀ t : NMSettingVpn, t.data.Perm s.data →
    (nmAirvpnPropertiesValidate t = .ok () ↔ WellFormed s.data) ∧
      (¬ WellFormed s.data → ∃ message,
        nmAirvpnPropertiesValidate t = .error (invalidConnection message))

theorem validate_perm {s t : NMSettingVpn} (h : t.data.Perm s.data) :
    nmAirvpnPropertiesValidate t = .ok () ↔ nmAirvpnPropertiesValidate s = .ok () := by
  rw [validate_eq_ok_iff, validate_eq_ok_iff]
  exact ⟨fun hl => hl.perm fun _ => h.mem_iff.symm, fun hl => hl.perm fun _ => h.mem_iff⟩

theorem accepts_wellFormed_iff (s : NMSettingVpn) :
    AcceptsWellFormed s ↔ ¬ LenientCorner s.data := by
  constructor
  · intro h hcorner
    have hok := (validate_eq_ok_iff s).mpr hcorner.1
    exact (wellFormed_iff.mp ((h s (.refl _)).1.mp hok)).2 hcorner
  · intro hcorner t hp
    have hok : nmAirvpnPropertiesValidate t = .ok () ↔ WellFormed s.data := by
      rw [validate_perm hp, validate_eq_ok_iff, wellFormed_iff]
      simp [hcorner]
    refine ⟨hok, fun hnot => ?_⟩
    rcases settles_validate t with h | h
    · exact absurd (hok.mp h) hnot
    · exact h

def samplePortRemark : NMSettingVpn where
  data := [(keyServer, "ch"), (keyPort, "443 (https)")]
  secrets := []
  data_nodup := by decide
  secrets_nodup := List.nodup_nil

theorem port_with_remark_accepted : ¬ AcceptsWellFormed samplePortRemark := by
  intro h
  have hok : nmAirvpnPropertiesValidate samplePortRemark = .ok () := by rfl
  have hwf := (h samplePortRemark (.refl _)).1.mp hok
  have hport := hwf.numbers (keyPort, 65535) (by simp [numberItems]) "443 (https)"
    (by simp [samplePortRemark])
  exact absurd hport.1 (by decide)

end AirVpn
