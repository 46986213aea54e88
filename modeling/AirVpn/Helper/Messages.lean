import AirVpn.Helper.Options

/-! # The messages of the helper

What the service is told: when the dictionaries are well formed, and the one way in
which the address of a tun device gets two prefixes.
-/

namespace AirVpn.Helper

/-! ## Well-formed messages -/

def keys (dict : Dict) : List String := dict.map Prod.fst

/-- The messages for a tun device. -/
structure WellFormed (calls : List Call) : Prop where
  nodup : ∀ call ∈ calls, (keys call.2).Nodup
  general : ∃ config, (∀ dict, ("SetConfig", dict) ∈ calls ↔ dict = config) ∧
    ((∃ dict, ("SetIp4Config", dict) ∈ calls) ↔ ("has-ip4", .boolean true) ∈ config) ∧
    ((∃ dict, ("SetIp6Config", dict) ∈ calls) ↔ ("has-ip6", .boolean true) ∈ config)
  ip4 : ∀ dict, ("SetIp4Config", dict) ∈ calls →
    (keys dict).count "address" = 1 ∧ (keys dict).count "prefix" = 1
  ip6 : ∀ dict, ("SetIp6Config", dict) ∈ calls → (keys dict).count "address" = 1
  configured : ∃ dict, ("SetIp4Config", dict) ∈ calls ∨ ("SetIp6Config", dict) ∈ calls
  routes : ∀ call ∈ calls, ¬ ("routes" ∈ keys call.2 ∧ "preserve-routes" ∈ keys call.2)

section

variable (lib : Libs) (environ : Environ) (argv : List (List Char)) (tapdev : Bool)

end

section

variable (environ : Environ) (gateway : GVariant) (dev : List Char) (hasIp4 hasIp6 : Bool)

end

/-! ## The two prefixes -/

section

variable {config : Dict} {ip4config ip6config : Option Dict} {dict : Dict}

end

end AirVpn.Helper
