import AirVpn.Model.Helper

/-! # The routes of the helper

Which entries of the environment are routes, and that the two loops collect exactly
these, in the order of their numbers.
-/

namespace AirVpn.Helper

/-! ## Numbered variables -/

theorem name_injective (name : String) : Function.Injective fun i : Nat => name ++ toString i := by
  intro i j h
  have htext := congrArg String.toList h
  simp only [String.toList_append, List.append_cancel_left_eq] at htext
  have hvalue := congrArg Decimal.value htext
  simpa using hvalue

theorem mem_of_numbered {environ : Environ} {name : String} {i : Nat}
    (h : (nonEmptyText (numbered environ name i)).isSome = true) :
    name ++ toString i ∈ environ.map Prod.fst := by
  obtain ⟨text, htext⟩ := Option.isSome_iff_exists.mp h
  have hlookup := (Option.filter_eq_some_iff.mp htext).1
  by_contra hnot
  have hnone : environ.lookup (name ++ toString i) = none := by
    rw [List.lookup_eq_none_iff]
    intro entry hentry
    exact bne_iff_ne.mpr fun heq => hnot (List.mem_map.mpr ⟨entry, hentry, heq.symm⟩)
  have hsome : environ.lookup (name ++ toString i) = some text := hlookup
  rw [hnone] at hsome
  cases hsome

theorem exists_numbered_ends (environ : Environ) (name : String) :
    ∃ stop, Scan.Ends (fun i => nonEmptyText (numbered environ name i)) 1 stop ∧
      stop < 1 + (environ.length + 1) := by
  obtain ⟨stop, hends, hle⟩ := Scan.exists_ends (name_injective name) (environ.map Prod.fst)
    (fun i h => mem_of_numbered h) 1
  rw [List.length_map] at hle
  exact ⟨stop, hends, by omega⟩

/-! ## Exact collections -/

/-- A result is the list of what is acceptable at the numbers before the first missing
variable, in order, and absent if there is nothing. -/
structure CollectsExactly {β : Type} (read : Nat → Option (List Char))
    (Acceptable : Nat → β → Prop) (result : Option (List β)) : Prop where
  collected : ∃ stop, Scan.Ends read 1 stop ∧ ∃ entry : Nat → Option β,
    (∀ i, 1 ≤ i → i < stop → ∀ x, entry i = some x ↔ Acceptable i x) ∧
    result.getD [] = (List.range' 1 (stop - 1)).filterMap entry
  absent : result = none ↔
    ∀ stop, Scan.Ends read 1 stop → ∀ i, 1 ≤ i → i < stop → ∀ x, ¬ Acceptable i x

theorem collectsExactly_of_scan {β : Type} [DecidableEq β] {read : Nat → Option (List Char)}
    {Acceptable : Nat → β → Prop} {visit : Nat → List Char → Option β} {stop fuel : Nat}
    (hends : Scan.Ends read 1 stop) (hfuel : stop < 1 + fuel)
    (hvisit : ∀ i x, (read i).bind (visit i) = some x ↔ Acceptable i x) :
    CollectsExactly read Acceptable
      ((Scan.scan read (fun found i tmp => found ++ (visit i tmp).toList) fuel 1 []).filter
        (· ≠ [])) := by
  rw [Scan.scan_filterMap visit hends hfuel]
  refine ⟨⟨stop, hends, fun i => (read i).bind (visit i), fun i _ _ => hvisit i, ?_⟩, ?_⟩
  · generalize (List.range' 1 (stop - 1)).filterMap (fun i => (read i).bind (visit i)) = routes
    cases routes <;> rfl
  · have hnil : (some ((List.range' 1 (stop - 1)).filterMap fun i =>
        (read i).bind (visit i))).filter (· ≠ []) = none ↔
        (List.range' 1 (stop - 1)).filterMap (fun i => (read i).bind (visit i)) = [] := by
      simp [Option.filter_eq_none_iff]
    rw [hnil, List.filterMap_eq_nil_iff]
    simp only [List.mem_range'_1]
    constructor
    · intro hnone stop' hends' i hlo hlt x hx
      rw [hends'.unique hends] at hlt
      rw [← hvisit, hnone i ⟨hlo, by omega⟩] at hx
      cases hx
    · rintro hnone i ⟨hlo, hhi⟩
      refine Option.eq_none_iff_forall_ne_some.mpr fun x hx => ?_
      exact hnone stop hends i hlo (by omega) x ((hvisit i x).mp hx)

/-! ## Acceptable entries -/

/-- The variables of an IPv4 entry: a network and a netmask, a gateway or none, and a
metric in 32 bits or none. -/
structure Ip4Acceptable (lib : Libs) (environ : Environ) (i : Nat) (route : Ip4Route) : Prop where
  network : ∃ tmp, numbered environ "route_network_" i = some tmp ∧ tmp ≠ [] ∧
    lib.inetPton4 tmp = some route.network
  plen : ∃ tmp netmask, numbered environ "route_netmask_" i = some tmp ∧
    lib.inetPton4 tmp = some netmask ∧ route.plen = lib.nmUtilsIp4NetmaskToPrefix netmask
  gateway : numbered environ "route_gateway_" i = none ∧ route.gateway = 0 ∨
    ∃ tmp, numbered environ "route_gateway_" i = some tmp ∧
      lib.inetPton4 tmp = some route.gateway
  metric : nonEmptyText (numbered environ "route_metric_" i) = none ∧ route.metric = 0 ∨
    ∃ tmp, numbered environ "route_metric_" i = some tmp ∧ tmp ≠ [] ∧
      DecimalInteger tmp route.metric ∧ route.metric ≤ 4294967295

/-- The variables of an IPv6 entry: a network with a prefix, and a gateway or the
fallback. -/
def Ip6Acceptable (lib : Libs) (environ : Environ) (fallbackGateway : Option (List Char))
    (i : Nat) (route : NMIPRoute) : Prop :=
  ∃ addr suffix addrbin, ∃ plen : Nat,
    numbered environ "route_ipv6_network_" i = some (addr ++ '/' :: suffix) ∧ '/' ∉ addr ∧
    lib.inetPton6 addr = some addrbin ∧ DecimalInteger suffix plen ∧ plen ≤ 128 ∧
    lib.nmIpRouteNew6 (lib.inetNtop6 addrbin) plen
      ((numbered environ "route_ipv6_gateway_" i).or fallbackGateway) = some route

theorem routeGateway_eq_some {lib : Libs} {environ : Environ} {i gateway : Nat} :
    routeGateway lib environ i = some gateway ↔
      numbered environ "route_gateway_" i = none ∧ gateway = 0 ∨
        ∃ tmp, numbered environ "route_gateway_" i = some tmp ∧
          lib.inetPton4 tmp = some gateway := by
  unfold routeGateway
  cases numbered environ "route_gateway_" i with
  | none => simp [eq_comm]
  | some tmp => simp

theorem routeMetric_eq_some {environ : Environ} {i : Nat} {metric : Int} :
    routeMetric environ i = some metric ↔
      nonEmptyText (numbered environ "route_metric_" i) = none ∧ metric = 0 ∨
        ∃ tmp, numbered environ "route_metric_" i = some tmp ∧ tmp ≠ [] ∧
          DecimalInteger tmp metric ∧ 0 ≤ metric ∧ metric ≤ maxUint32 := by
  have hnumber : ∀ tmp : List Char, nmUtilsAsciiStrToInt64 (some tmp) 0 maxUint32 = some metric ↔
      DecimalInteger tmp metric ∧ 0 ≤ metric ∧ metric ≤ maxUint32 := fun tmp =>
    nmUtilsAsciiStrToInt64_eq_some_iff (by decide) (by decide)
  unfold routeMetric
  cases htext : nonEmptyText (numbered environ "route_metric_" i) with
  | none =>
      have hnot : ∀ tmp, numbered environ "route_metric_" i = some tmp → tmp = [] := by
        intro tmp htmp
        by_contra hne
        rw [nonEmptyText_eq_some.mpr ⟨htmp, hne⟩] at htext
        cases htext
      constructor
      · intro h
        exact .inl ⟨rfl, (Option.some.inj h).symm⟩
      · rintro (⟨-, rfl⟩ | ⟨tmp, htmp, hne, -⟩)
        · rfl
        · exact absurd (hnot tmp htmp) hne
  | some tmp =>
      obtain ⟨htmp, hne⟩ := nonEmptyText_eq_some.mp htext
      dsimp only
      rw [hnumber]
      constructor
      · exact fun h => .inr ⟨tmp, htmp, hne, h⟩
      · rintro (⟨hnone, -⟩ | ⟨tmp', htmp', -, h⟩)
        · cases hnone
        · rw [htmp] at htmp'
          exact Option.some.inj htmp' ▸ h

theorem ip4Route_iff (lib : Libs) (environ : Environ) (i : Nat) (route : Ip4Route) :
    (nonEmptyText (numbered environ "route_network_" i)).bind (ip4Route lib environ i) =
      some route ↔ Ip4Acceptable lib environ i route := by
  simp only [ip4Route, Option.bind_eq_bind, Option.bind_eq_some_iff, nonEmptyText_eq_some,
    routeGateway_eq_some, routeMetric_eq_some, Option.some.injEq]
  constructor
  · rintro ⟨tmp, ⟨htmp, hne⟩, network, hnetwork, netmask, ⟨mask, hmask, hnetmask⟩, gateway,
      hgateway, metric, hmetric, rfl⟩
    refine ⟨⟨tmp, htmp, hne, hnetwork⟩, ⟨mask, netmask, hmask, hnetmask, rfl⟩, hgateway, ?_⟩
    rcases hmetric with ⟨hnone, rfl⟩ | ⟨text, htext, hfull, hint, hlo, hhi⟩
    · exact .inl ⟨hnone, rfl⟩
    · have hcast : (metric.toNat : Int) = metric := Int.toNat_of_nonneg hlo
      refine .inr ⟨text, htext, hfull, ?_, ?_⟩
      · show DecimalInteger text (metric.toNat : Int)
        rwa [hcast]
      · show metric.toNat ≤ 4294967295
        unfold maxUint32 at hhi
        omega
  · rintro ⟨⟨tmp, htmp, hne, hnetwork⟩, ⟨mask, netmask, hmask, hnetmask, hplen⟩, hgateway, hmetric⟩
    refine ⟨tmp, ⟨htmp, hne⟩, route.network, hnetwork, netmask, ⟨mask, hmask, hnetmask⟩,
      route.gateway, hgateway, route.metric, ?_, ?_⟩
    · rcases hmetric with ⟨hnone, hzero⟩ | ⟨text, htext, hfull, hint, hhi⟩
      · exact .inl ⟨hnone, by rw [hzero]; rfl⟩
      · refine .inr ⟨text, htext, hfull, hint, by omega, ?_⟩
        unfold maxUint32
        omega
    · cases route
      simp_all

theorem parseInaddrPrefix6_eq_some {lib : Libs} {text dst : List Char} {plen : Int} :
    nmUtilsParseInaddrPrefix6 lib text = some (dst, some plen) ↔
      ∃ addr suffix addrbin, text = addr ++ '/' :: suffix ∧ '/' ∉ addr ∧
        lib.inetPton6 addr = some addrbin ∧ dst = lib.inetNtop6 addrbin ∧
        DecimalInteger suffix plen ∧ 0 ≤ plen ∧ plen ≤ 128 := by
  have hnumber : ∀ suffix : List Char, nmUtilsAsciiStrToInt64 (some suffix) 0 128 = some plen ↔
      DecimalInteger suffix plen ∧ 0 ≤ plen ∧ plen ≤ 128 := fun suffix =>
    nmUtilsAsciiStrToInt64_eq_some_iff (by decide) (by decide)
  constructor
  · intro h
    unfold nmUtilsParseInaddrPrefix6 at h
    rw [Option.bind_eq_bind, Option.bind_eq_some_iff] at h
    obtain ⟨addrbin, hbin, hslash⟩ := h
    obtain ⟨hnot, after, htext, hafter⟩ := Text.takeWhile_eq_iff.mp (rfl :
      text.takeWhile (· ≠ '/') = _)
    have hdrop : text.dropWhile (· ≠ '/') = after := by
      have hcut := List.takeWhile_append_dropWhile (p := (· ≠ '/')) (l := text)
      exact List.append_cancel_left (hcut.trans htext)
    rw [hdrop] at hslash
    cases after with
    | nil => cases hslash
    | cons c suffix =>
        have hc : c = '/' := by simpa using hafter c suffix rfl
        subst hc
        rw [Option.bind_eq_bind, Option.bind_eq_some_iff] at hslash
        obtain ⟨n, hn, heq⟩ := hslash
        simp only [Option.some.injEq, Prod.mk.injEq] at heq
        obtain ⟨rfl, rfl⟩ := heq
        refine ⟨_, suffix, addrbin, htext, fun hmem => ?_, hbin, rfl, (hnumber suffix).mp hn⟩
        exact absurd (hnot '/' hmem) (by decide)
  · rintro ⟨addr, suffix, addrbin, rfl, hnot, hbin, rfl, hplen⟩
    have hall : ∀ c ∈ addr, decide (c ≠ '/') = true := fun c hc =>
      decide_eq_true fun heq => hnot (heq ▸ hc)
    have htake : (addr ++ '/' :: suffix).takeWhile (· ≠ '/') = addr := by
      rw [List.takeWhile_append_of_pos hall, List.takeWhile_cons_of_neg (by decide),
        List.append_nil]
    have hdrop : (addr ++ '/' :: suffix).dropWhile (· ≠ '/') = '/' :: suffix := by
      rw [List.dropWhile_append_of_pos hall, List.dropWhile_cons_of_neg (by decide)]
    unfold nmUtilsParseInaddrPrefix6
    rw [htake, hdrop, hbin]
    dsimp only
    rw [Option.bind_eq_bind, Option.bind_some, (hnumber suffix).mpr hplen]
    rfl

theorem ip6Route_iff (lib : Libs) (environ : Environ) (fallbackGateway : Option (List Char))
    (i : Nat) (route : NMIPRoute) :
    (nonEmptyText (numbered environ "route_ipv6_network_" i)).bind
      (ip6Route lib environ fallbackGateway i) = some route ↔
        Ip6Acceptable lib environ fallbackGateway i route := by
  simp only [ip6Route, Option.bind_eq_bind, Option.bind_eq_some_iff, nonEmptyText_eq_some]
  constructor
  · rintro ⟨tmp, ⟨htmp, -⟩, ⟨dst, plen⟩, hparse, n, rfl, hroute⟩
    obtain ⟨addr, suffix, addrbin, rfl, hnot, hbin, rfl, hint, hlo, hhi⟩ :=
      parseInaddrPrefix6_eq_some.mp hparse
    have hcast : (n.toNat : Int) = n := Int.toNat_of_nonneg hlo
    refine ⟨addr, suffix, addrbin, n.toNat, htmp, hnot, hbin, ?_, by omega, hroute⟩
    rwa [hcast]
  · rintro ⟨addr, suffix, addrbin, plen, htmp, hnot, hbin, hint, hle, hroute⟩
    refine ⟨_, ⟨htmp, by simp⟩, (lib.inetNtop6 addrbin, some (plen : Int)), ?_, plen, rfl, hroute⟩
    exact parseInaddrPrefix6_eq_some.mpr
      ⟨addr, suffix, addrbin, rfl, hnot, hbin, rfl, hint, by omega, by omega⟩

/-- Both loops end and collect exactly the acceptable entries. -/
theorem helper_routes_exact (lib : Libs) (environ : Environ)
    (fallbackGateway : Option (List Char)) :
    ((ip4RouteScan lib environ).isSome = true ∧
      CollectsExactly (fun i => nonEmptyText (numbered environ "route_network_" i))
        (Ip4Acceptable lib environ) (getIp4Routes lib environ)) ∧
      (ip6RouteScan lib environ fallbackGateway).isSome = true ∧
      CollectsExactly (fun i => nonEmptyText (numbered environ "route_ipv6_network_" i))
        (Ip6Acceptable lib environ fallbackGateway)
        (getIp6Routes lib environ fallbackGateway) := by
  obtain ⟨stop4, hends4, hfuel4⟩ := exists_numbered_ends environ "route_network_"
  obtain ⟨stop6, hends6, hfuel6⟩ := exists_numbered_ends environ "route_ipv6_network_"
  refine ⟨⟨?_, collectsExactly_of_scan hends4 hfuel4 (ip4Route_iff lib environ)⟩, ?_,
    collectsExactly_of_scan hends6 hfuel6 (ip6Route_iff lib environ fallbackGateway)⟩
  · rw [ip4RouteScan, Scan.scan_filterMap _ hends4 hfuel4]
    rfl
  · rw [ip6RouteScan, Scan.scan_filterMap _ hends6 hfuel6]
    rfl

end AirVpn.Helper
