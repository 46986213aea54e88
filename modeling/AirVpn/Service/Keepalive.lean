import AirVpn.Settings.Accepted
import AirVpn.Service.Handlers

/-! # The keepalive arguments

What `run_openvpn` passes with `--keepalive`, and when OpenVPN can start with it.
The two values are checked apart from each other, and each has its own default.
-/

namespace AirVpn.Service

/-- The directives tune the ping themselves. -/
def tunesPing (directives : Option String) : Bool :=
  strstr (orEmpty directives).toList "keepalive".toList ||
    strstr (orEmpty directives).toList "ping".toList

theorem tunesPing_eq (directives : Option String) :
    tunesPing directives =
      match directives with
      | none => false
      | some d => strstr d.toList "keepalive".toList || strstr d.toList "ping".toList := by
  cases directives <;> rfl

theorem keepaliveArgs_eq (s : NMSettingVpn) :
    keepaliveArgs (some s) =
      if s.getDataItem keyKeepalive ≠ some "no" && (s.getDataItem keyProtocol = none ||
          s.getDataItem keyProtocol = some protocolUdp) &&
          !tunesPing (s.getDataItem keyCustomDirectives) then
        ["--keepalive", (nonEmpty (s.getDataItem keyPingInterval)).getD defaultPingInterval,
          (nonEmpty (s.getDataItem keyPingRestart)).getD defaultPingRestart]
      else [] := by
  rw [tunesPing_eq]
  rfl

/-- `run_openvpn` leaves the ping to the server, to TCP or to the directives. -/
def LeavesPing (s : NMSettingVpn) : Prop :=
  s.getDataItem keyKeepalive = some "no" ∨ s.getDataItem keyProtocol = some protocolTcp ∨
    tunesPing (s.getDataItem keyCustomDirectives) = true

theorem keepaliveArgs_cases {s : NMSettingVpn} (hs : nmAirvpnPropertiesValidate s = .ok ()) :
    (LeavesPing s ∧ keepaliveArgs (some s) = []) ∨
      (¬ LeavesPing s ∧ keepaliveArgs (some s) =
        ["--keepalive", (s.getDataItem keyPingInterval).getD defaultPingInterval,
          (s.getDataItem keyPingRestart).getD defaultPingRestart]) := by
  obtain ⟨_, hprotocol, _, _, _, _, hinterval, hrestart⟩ := nmAirvpnPropertiesValidate_eq_ok.mp hs
  have htcp : protocolTcp ≠ protocolUdp := by decide
  by_cases h : LeavesPing s
  · refine .inl ⟨h, ?_⟩
    rw [keepaliveArgs_eq]
    refine if_neg ?_
    rcases h with h | h | h
    · simp [h]
    · simp [h, htcp]
    · simp [h]
  · refine .inr ⟨h, ?_⟩
    simp only [LeavesPing, not_or, Bool.not_eq_true] at h
    obtain ⟨hkeep, hnotTcp, htunes⟩ := h
    have hudp : s.getDataItem keyProtocol = none ∨
        s.getDataItem keyProtocol = some protocolUdp := by
      cases hitem : s.getDataItem keyProtocol with
      | none => exact .inl rfl
      | some value =>
          have hvalue := hprotocol value hitem
          simp only [isProtocol, Bool.or_eq_true, decide_eq_true_eq] at hvalue
          rcases hvalue with rfl | rfl
          · exact .inr rfl
          · exact absurd hitem hnotTcp
    have hnonEmpty : ∀ key, Passes s key (isBetween 3600) →
        nonEmpty (s.getDataItem key) = s.getDataItem key := by
      intro key hpass
      cases hitem : s.getDataItem key with
      | none => rfl
      | some value => exact nonEmpty_some (ne_empty_of_isBetween (hpass value hitem))
    rw [keepaliveArgs_eq, if_pos (by simpa [hkeep, htunes] using hudp), hnonEmpty _ hinterval,
      hnonEmpty _ hrestart]

/-! ## What OpenVPN takes -/

/-- OpenVPN takes two whole numbers, the second at least twice the first one. -/
structure KeepaliveTaken (interval restart : String) : Prop where
  wholeInterval : Decimal.Plain interval.toList
  wholeRestart : Decimal.Plain restart.toList
  positive : 1 ≤ Decimal.value interval.toList
  twice : 2 * Decimal.value interval.toList ≤ Decimal.value restart.toList

/-- If `--keepalive` follows the configuration on the command line, OpenVPN takes its
arguments. -/
def StartsWithKeepalive (argv : List String) : Prop :=
  ∀ interval restart rest, argv.drop 3 = "--keepalive" :: interval :: restart :: rest →
    KeepaliveTaken interval restart

theorem startsWithKeepalive_iff {s : NMSettingVpn} (hs : nmAirvpnPropertiesValidate s = .ok ())
    (cfg : Config) (env : Env) (openvpn path : String) :
    StartsWithKeepalive (openvpnArgv cfg env openvpn path (some s)) ↔
      LeavesPing s ∨ KeepaliveTaken ((s.getDataItem keyPingInterval).getD defaultPingInterval)
        ((s.getDataItem keyPingRestart).getD defaultPingRestart) := by
  unfold StartsWithKeepalive openvpnArgv
  rcases keepaliveArgs_cases hs with ⟨hleaves, hargs⟩ | ⟨hpasses, hargs⟩
  · rw [hargs]
    refine iff_of_true (fun interval restart rest h => ?_) (.inl hleaves)
    have hhead := (List.cons.inj h).1
    exact absurd hhead (by decide)
  · rw [hargs]
    constructor
    · intro h
      exact .inr (h _ _ _ rfl)
    · rintro (hleaves | htaken) interval restart rest h
      · exact absurd hleaves hpasses
      · obtain ⟨rfl, hrest⟩ := List.cons.inj (List.cons.inj h).2
        obtain ⟨rfl, -⟩ := List.cons.inj hrest
        exact htaken

/-! ## The values that fit -/

/-- The values of the setting, where it has any, are plain numbers that fit each other
or the default of the other. -/
def ValuesFit (interval restart : Option String) : Prop :=
  (∀ value, interval = some value → Decimal.Plain value.toList) ∧
    (∀ value, restart = some value → Decimal.Plain value.toList) ∧
      match interval, restart with
      | none, none => True
      | some interval, none => Decimal.value interval.toList ≤ 30
      | none, some restart => 20 ≤ Decimal.value restart.toList
      | some interval, some restart =>
          2 * Decimal.value interval.toList ≤ Decimal.value restart.toList

theorem plain_default : Decimal.Plain defaultPingInterval.toList ∧
    Decimal.Plain defaultPingRestart.toList := by decide

theorem value_default : Decimal.value defaultPingInterval.toList = 10 ∧
    Decimal.value defaultPingRestart.toList = 60 := by decide

theorem keepaliveTaken_iff {interval restart : Option String}
    (hinterval : ∀ value, interval = some value → isBetween 3600 value = true) :
    KeepaliveTaken (interval.getD defaultPingInterval) (restart.getD defaultPingRestart) ↔
      ValuesFit interval restart := by
  have hpositive : ∀ value, interval = some value → Decimal.Plain value.toList →
      1 ≤ Decimal.value value.toList := fun value hv hplain =>
    ((isNumber_iff (by decide) value).mpr ⟨hplain, hinterval value hv⟩).2.1
  obtain ⟨hplainInterval, hplainRestart⟩ := plain_default
  obtain ⟨hten, hsixty⟩ := value_default
  constructor
  · rintro ⟨hi, hr, -, htwice⟩
    refine ⟨?_, ?_, ?_⟩
    · rintro value rfl
      exact hi
    · rintro value rfl
      exact hr
    · cases interval with
      | none =>
          cases restart with
          | none => trivial
          | some restart =>
              rw [Option.getD_none, hten] at htwice
              exact htwice
      | some interval =>
          cases restart with
          | none =>
              rw [Option.getD_none, hsixty, Option.getD_some] at htwice
              show Decimal.value interval.toList ≤ 30
              omega
          | some restart => exact htwice
  · rintro ⟨hi, hr, hfit⟩
    cases interval with
    | none =>
        cases restart with
        | none => exact ⟨hplainInterval, hplainRestart, by decide, by decide⟩
        | some restart =>
            refine ⟨hplainInterval, hr restart rfl, by decide, ?_⟩
            rw [Option.getD_none, hten]
            exact hfit
    | some interval =>
        have hwhole := hi interval rfl
        cases restart with
        | none =>
            refine ⟨hwhole, hplainRestart, hpositive interval rfl hwhole, ?_⟩
            have hle : Decimal.value interval.toList ≤ 30 := hfit
            rw [Option.getD_none, hsixty, Option.getD_some]
            omega
        | some restart => exact ⟨hwhole, hr restart rfl, hpositive interval rfl hwhole, hfit⟩

/-- OpenVPN can start with the keepalive of an accepted setting exactly when none is
passed or the values fit. -/
theorem starts_with_keepalive_iff {s : NMSettingVpn} (hs : nmAirvpnPropertiesValidate s = .ok ())
    (cfg : Config) (env : Env) (openvpn path : String) :
    StartsWithKeepalive (openvpnArgv cfg env openvpn path (some s)) ↔
      LeavesPing s ∨ ValuesFit (s.getDataItem keyPingInterval) (s.getDataItem keyPingRestart) := by
  have hinterval := (nmAirvpnPropertiesValidate_eq_ok.mp hs).2.2.2.2.2.2.1
  rw [startsWithKeepalive_iff hs, keepaliveTaken_iff hinterval]

def sampleInterval (interval : String) : NMSettingVpn where
  data := [(keyServer, "ch"), (keyPingInterval, interval)]
  secrets := []
  data_nodup := by simp [keyServer, keyPingInterval]
  secrets_nodup := List.nodup_nil

def sampleArgv (interval : String) : List String :=
  openvpnArgv (sampleConfig true) (sampleEnv (.ok 701)) "/usr/sbin/openvpn" "/run/config.ovpn"
    (some (sampleInterval interval))

theorem starts_with_keepalive_sample : StartsWithKeepalive (sampleArgv "25") := by
  refine (starts_with_keepalive_iff (by rfl) _ _ _ _).mpr (.inr ⟨?_, ?_, ?_⟩)
  · rintro value ⟨⟩
    decide
  · rintro value ⟨⟩
  · show Decimal.value "25".toList ≤ 30
    decide

/-- Forty seconds between the pings do not go with the default of sixty for the
restart. -/
theorem keepalive_interval_beyond_default :
    nmAirvpnPropertiesValidate (sampleInterval "40") = .ok () ∧
      ¬ StartsWithKeepalive (sampleArgv "40") := by
  refine ⟨by rfl, fun h => ?_⟩
  have htwice := (h "40" "60" _ rfl).twice
  exact absurd htwice (by decide)

end AirVpn.Service
