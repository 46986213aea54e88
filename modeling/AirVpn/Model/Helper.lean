import AirVpn.Lib.Entries
import AirVpn.Lib.Scan
import AirVpn.Model.SharedUtils

/-! # The helper that openvpn runs

`nm-airvpn-service-openvpn-helper.c`: the arguments and the environment that openvpn
hands over, and the D-Bus calls that the helper makes of them. A C string is the
list of its bytes; the loops over numbered variables end long before their index
could wrap, as each pass needs a variable of its own.
-/

namespace AirVpn.Helper

/-! ## What the helper is given -/

abbrev Environ := List (String × List Char)

def getenv (environ : Environ) (name : String) : Option (List Char) := environ.lookup name

/-- `getenv` of a name with a number at its end. -/
def numbered (environ : Environ) (name : String) (i : Nat) : Option (List Char) :=
  getenv environ (name ++ toString i)

/-- `tmp && tmp[0]`, with the text. -/
def nonEmptyText (tmp : Option (List Char)) : Option (List Char) := tmp.filter (· ≠ [])

theorem nonEmptyText_eq_some {tmp : Option (List Char)} {text : List Char} :
    nonEmptyText tmp = some text ↔ tmp = some text ∧ text ≠ [] := by
  simp [nonEmptyText, Option.filter_eq_some_iff]

abbrev In6Addr := { bytes : List UInt8 // bytes.length = 16 }

structure NMIPRoute where
  dest : List Char
  plen : Nat
  nextHop : Option (List Char)
  deriving DecidableEq, Repr

/-- The functions of libc, GLib and libnm that the helper calls: addresses as in
`s_addr`, `none` for a text that is no address, the addresses that a name resolves to,
and whether a proxy can be had under a bus name. -/
structure Libs where
  inetPton4 : List Char → Option Nat
  inetPton6 : List Char → Option In6Addr
  inetNtop6 : In6Addr → List Char
  getaddrinfo4 : List Char → Option (List Nat)
  gUtf8Validate : List Char → Bool
  gDbusIsName : List Char → Bool
  gDbusProxyNew : List Char → Bool
  nmUtilsIp4NetmaskToPrefix : Nat → Nat
  nmIpRouteNew6 : List Char → Nat → Option (List Char) → Option NMIPRoute

/-! ## The options -/

/-- `gl` and the locals that the option loop sets; `tapdev` is -1 at first. -/
structure Options where
  logLevel : Int
  logPrefixToken : Option (List Char)
  tapdev : Option Bool
  busName : List Char
  deriving DecidableEq, Repr

def nmDbusServiceAirvpn : String := "org.freedesktop.NetworkManager.airvpn"

def initOptions : Options := ⟨0, none, none, nmDbusServiceAirvpn.toList⟩

def logDebug : Int := 7

/-- How the option loop comes out: at an index, with `exit`, with a read outside of the
vector, or not at all. -/
inductive LoopOutcome where
  | stopped (i : Nat) (options : Options)
  | exits (message : String)
  | outside
  | running
  deriving DecidableEq, Repr

/-- The option loop of `main` from the index `i`, for at most `fuel` passes. -/
def optionLoop (isName : List Char → Bool) (argv : List (List Char)) :
    Nat → Nat → Options → LoopOutcome
  | 0, _, _ => .running
  | fuel + 1, i, options =>
      if argv.length ≤ i then .stopped i options
      else
        match argv[i]? with
        | none => .outside
        | some arg =>
            if arg = "--".toList then .stopped (i + 1) options
            else if arg = "--debug".toList then
              if argv.length ≤ i + 2 then
                .exits "Missing debug arguments (requires <LEVEL> <PREFIX_TOKEN>)\n"
              else
                match argv[i + 1]?, argv[i + 2]? with
                | some level, some token =>
                    optionLoop isName argv fuel (i + 3)
                      { options with
                        logLevel := (nmUtilsAsciiStrToInt64 (some level) 0 logDebug).getD 0
                        logPrefixToken := some token }
                | _, _ => .outside
            else if arg = "--tun".toList then
              optionLoop isName argv fuel (i + 1) { options with tapdev := some false }
            else if arg = "--tap".toList then
              optionLoop isName argv fuel (i + 1) { options with tapdev := some true }
            else if arg = "--bus-name".toList then
              if i + 1 = argv.length then .exits "Missing bus name argument\n"
              else
                match argv[i + 1]? with
                | none => .outside
                | some name =>
                    if !isName name then .exits "Invalid bus name\n"
                    else optionLoop isName argv fuel (i + 2) { options with busName := name }
            else .stopped i options

/-- `argv[shift] = argv[0]; argv += shift`, if that index is in the vector. -/
def shiftArgs (argv : List (List Char)) (shift : Nat) : Option (List (List Char)) :=
  if shift = 0 then some argv
  else if shift < argv.length then
    argv[0]?.map fun name => (argv.set shift name).drop shift
  else none

def isRestart (argv : List (List Char)) : Bool :=
  7 ≤ argv.length && argv[6]? = some "restart".toList

/-- An argument that stands in for a variable, on a restart. -/
def restartArg (argv : List (List Char)) (i : Nat) : Option (List Char) :=
  if isRestart argv then argv[i]? else none

/-! ## Values -/

structure Ip4Route where
  network : Nat
  plen : Nat
  gateway : Nat
  metric : Nat
  deriving DecidableEq, Repr

inductive GVariant where
  | boolean (value : Bool)
  | uint32 (value : Nat)
  | string (value : List Char)
  | bytes (value : In6Addr)
  | uint32s (values : List Nat)
  | bytesList (values : List In6Addr)
  | strv (values : List (List Char))
  | ip4Routes (routes : List Ip4Route)
  | ip6Routes (routes : List NMIPRoute)
  deriving DecidableEq

/-- A variable dictionary: the entries in the order in which they were added. -/
abbrev Dict := List (String × GVariant)

def addr4ToGvariant (lib : Libs) (str : Option (List Char)) : Option Nat :=
  (nonEmptyText str).bind lib.inetPton4

def addr6ToGvariant (lib : Libs) (str : Option (List Char)) : Option In6Addr :=
  (nonEmptyText str).bind lib.inetPton6

/-! ## Routes -/

def maxUint32 : Int := 4294967295

/-- The gateway of an entry can be missing, and must be an address if it is there. -/
def routeGateway (lib : Libs) (environ : Environ) (i : Nat) : Option Nat :=
  match numbered environ "route_gateway_" i with
  | none => some 0
  | some tmp => lib.inetPton4 tmp

def routeMetric (environ : Environ) (i : Nat) : Option Int :=
  match nonEmptyText (numbered environ "route_metric_" i) with
  | none => some 0
  | some tmp => nmUtilsAsciiStrToInt64 (some tmp) 0 maxUint32

def ip4Route (lib : Libs) (environ : Environ) (i : Nat) (tmp : List Char) : Option Ip4Route := do
  let network ← lib.inetPton4 tmp
  let netmask ← (numbered environ "route_netmask_" i).bind lib.inetPton4
  let gateway ← routeGateway lib environ i
  let metric ← routeMetric environ i
  some ⟨network, lib.nmUtilsIp4NetmaskToPrefix netmask, gateway, metric.toNat⟩

/-- The loop of `get_ip4_routes`; `none` means that it does not end. -/
def ip4RouteScan (lib : Libs) (environ : Environ) : Option (List Ip4Route) :=
  Scan.scan (fun i => nonEmptyText (numbered environ "route_network_" i))
    (fun routes i tmp => routes ++ (ip4Route lib environ i tmp).toList) (environ.length + 1) 1 []

def getIp4Routes (lib : Libs) (environ : Environ) : Option (List Ip4Route) :=
  (ip4RouteScan lib environ).filter (· ≠ [])

/-- `nm_utils_parse_inaddr_prefix` for `AF_INET6`, with no prefix if none is given. -/
def nmUtilsParseInaddrPrefix6 (lib : Libs) (text : List Char) :
    Option (List Char × Option Int) := do
  let addrbin ← lib.inetPton6 (text.takeWhile (· ≠ '/'))
  match text.dropWhile (· ≠ '/') with
  | [] => some (lib.inetNtop6 addrbin, none)
  | _ :: rest =>
      let plen ← nmUtilsAsciiStrToInt64 (some rest) 0 128
      some (lib.inetNtop6 addrbin, some plen)

def ip6Route (lib : Libs) (environ : Environ) (fallbackGateway : Option (List Char)) (i : Nat)
    (tmp : List Char) : Option NMIPRoute := do
  let (dst, plen) ← nmUtilsParseInaddrPrefix6 lib tmp
  let plen ← plen
  lib.nmIpRouteNew6 dst plen.toNat ((numbered environ "route_ipv6_gateway_" i).or fallbackGateway)

def ip6RouteScan (lib : Libs) (environ : Environ) (fallbackGateway : Option (List Char)) :
    Option (List NMIPRoute) :=
  Scan.scan (fun i => nonEmptyText (numbered environ "route_ipv6_network_" i))
    (fun routes i tmp => routes ++ (ip6Route lib environ fallbackGateway i tmp).toList)
    (environ.length + 1) 1 []

def getIp6Routes (lib : Libs) (environ : Environ) (fallbackGateway : Option (List Char)) :
    Option (List NMIPRoute) :=
  (ip6RouteScan lib environ fallbackGateway).filter (· ≠ [])

/-! ## The options that the server pushes -/

/-- The five lists that the loop over `foreign_option_%d` fills. -/
structure ForeignOptions where
  dns4 : List Nat
  dns6 : List In6Addr
  nbns : List Nat
  domains : List (List Char)
  domainSearch : List (List Char)

def initForeignOptions : ForeignOptions := ⟨[], [], [], [], []⟩

/-- One pass of the loop of `parse_addr_list`; without a list for IPv6 addresses these
are skipped. -/
def addAddr (lib : Libs) (array6 : Bool) (lists : List Nat × List In6Addr) (token : List Char) :
    List Nat × List In6Addr :=
  match addr4ToGvariant lib (some token) with
  | some addr => (lists.1 ++ [addr], lists.2)
  | none =>
      match (if array6 then addr6ToGvariant lib (some token) else none) with
      | some addr => (lists.1, lists.2 ++ [addr])
      | none => lists

def parseAddrList (lib : Libs) (array6 : Bool) (lists : List Nat × List In6Addr)
    (str : List Char) : List Nat × List In6Addr :=
  (gStrsplit str ' ').foldl (addAddr lib array6) lists

def isDomainValid (str : List Char) : Bool := 1 ≤ str.length && str.length ≤ 255

def afterPrefix (part : String) (tmp : List Char) : Option (List Char) :=
  if gStrHasPrefix tmp part.toList then some (tmp.drop part.toList.length) else none

def foreignOption (lib : Libs) (lists : ForeignOptions) (_i : Nat) (tmp : List Char) :
    ForeignOptions :=
  match afterPrefix "dhcp-option " tmp with
  | none => lists
  | some tmp =>
      match afterPrefix "DNS " tmp with
      | some str =>
          let parsed := parseAddrList lib true (lists.dns4, lists.dns6) str
          { lists with dns4 := parsed.1, dns6 := parsed.2 }
      | none =>
          match afterPrefix "WINS " tmp with
          | some str => { lists with nbns := (parseAddrList lib false (lists.nbns, []) str).1 }
          | none =>
              match (afterPrefix "DOMAIN " tmp).filter isDomainValid with
              | some domain => { lists with domains := lists.domains ++ [domain] }
              | none =>
                  match (afterPrefix "DOMAIN-SEARCH " tmp).filter isDomainValid with
                  | some domain => { lists with domainSearch := lists.domainSearch ++ [domain] }
                  | none => lists

def foreignOptionScan (lib : Libs) (environ : Environ) : Option ForeignOptions :=
  Scan.scan (fun i => nonEmptyText (numbered environ "foreign_option_" i)) (foreignOption lib)
    (environ.length + 1) 1 initForeignOptions

/-- The lists after the search domains have been added to the domains. -/
def foreignOptions (lib : Libs) (environ : Environ) : ForeignOptions :=
  let lists := (foreignOptionScan lib environ).getD initForeignOptions
  { lists with domains := lists.domains ++ lists.domainSearch }

def nonEmptyList {α : Type} (values : List α) : Option (List α) :=
  if values.isEmpty then none else some values

/-! ## The gateway -/

def ifconfigLocal (environ : Environ) (argv : List (List Char)) : Option (List Char) :=
  (getenv environ "ifconfig_local").or (restartArg argv 4)

def ip4Address (lib : Libs) (environ : Environ) (argv : List (List Char)) : Option Nat :=
  addr4ToGvariant lib (ifconfigLocal environ argv)

def ifconfigRemote (environ : Environ) (argv : List (List Char)) : Option (List Char) :=
  (getenv environ "ifconfig_remote").or (restartArg argv 5)

/-- The remote is probably a netmask, not a peer. -/
def isNetmask (tmp : Option (List Char)) : Bool := tmp.any (gStrHasPrefix · "255.".toList)

def remotePrefix (lib : Libs) (environ : Environ) (argv : List (List Char)) : Option Nat :=
  let tmp := ifconfigRemote environ argv
  (addr4ToGvariant lib tmp).bind fun addr =>
    if isNetmask tmp then some (lib.nmUtilsIp4NetmaskToPrefix addr) else none

def remotePtp (lib : Libs) (environ : Environ) (argv : List (List Char)) : Option Nat :=
  let tmp := ifconfigRemote environ argv
  (addr4ToGvariant lib tmp).bind fun addr => if isNetmask tmp then none else some addr

/-- The prefix of `ifconfig_netmask`, or else /32 for a tun device that has an address
and no prefix yet. -/
def netmaskPrefix (lib : Libs) (environ : Environ) (argv : List (List Char)) (tapdev : Bool) :
    Option Nat :=
  match (getenv environ "ifconfig_netmask").bind lib.inetPton4 with
  | some addr => some (lib.nmUtilsIp4NetmaskToPrefix addr)
  | none =>
      if !tapdev && (ip4Address lib environ argv).isSome &&
          (remotePrefix lib environ argv).isNone then some 32
      else none

def preserveRoutes (argv : List (List Char)) (hasRoutes : Bool) : Option GVariant :=
  if !hasRoutes && isRestart argv then some (.boolean true) else none

/-- What is added to `ip4builder`, in this order. -/
def ip4Builder (lib : Libs) (environ : Environ) (argv : List (List Char)) (tapdev : Bool) :
    Dict :=
  let routes := getIp4Routes lib environ
  let lists := foreignOptions lib environ
  Entries.present
    [("internal-gateway", (addr4ToGvariant lib (getenv environ "route_vpn_gateway")).map .uint32),
      ("address", (ip4Address lib environ argv).map .uint32),
      ("prefix", (remotePrefix lib environ argv).map .uint32),
      ("ptp", (remotePtp lib environ argv).map .uint32),
      ("prefix", (netmaskPrefix lib environ argv tapdev).map .uint32),
      ("routes", routes.map .ip4Routes),
      ("preserve-routes", preserveRoutes argv routes.isSome),
      ("dns", (nonEmptyList lists.dns4).map .uint32s),
      ("nbns", (nonEmptyList lists.nbns).map .uint32s),
      ("domains", (nonEmptyList lists.domains).map .strv)]

/-! ## The IPv6 dictionary -/

def ip6Address (lib : Libs) (environ : Environ) : Option In6Addr :=
  addr6ToGvariant lib (getenv environ "ifconfig_ipv6_local")

/-- A gateway that is no IPv4 address. -/
def intGateway6 (lib : Libs) (environ : Environ) : Option In6Addr :=
  let tmp := getenv environ "route_vpn_gateway"
  if (addr4ToGvariant lib tmp).isSome then none else addr6ToGvariant lib tmp

def ip6Netbits (environ : Environ) : Option Nat :=
  (nonEmptyText (getenv environ "ifconfig_ipv6_netbits")).bind fun tmp =>
    let netbits := strtol tmp
    if netbits < 0 || 128 < netbits then none else some netbits.toNat

def ip6Builder (lib : Libs) (environ : Environ) (argv : List (List Char)) : Dict :=
  let routes := getIp6Routes lib environ (getenv environ "ifconfig_ipv6_remote")
  let lists := foreignOptions lib environ
  let hasIp6Address := (ip6Address lib environ).isSome
  Entries.present
    [("internal-gateway", (intGateway6 lib environ).map .bytes),
      ("address", (ip6Address lib environ).map .bytes),
      ("prefix", (ip6Netbits environ).map .uint32),
      ("routes", routes.map .ip6Routes),
      ("preserve-routes", preserveRoutes argv routes.isSome),
      ("dns", if hasIp6Address then (nonEmptyList lists.dns6).map .bytesList else none),
      ("domains", if hasIp6Address then (nonEmptyList lists.domains).map .strv else none)]

/-! ## The calls -/

abbrev Call := String × Dict

/-- How the helper ends otherwise: with a message about its arguments, without a proxy,
with `helper_failed`, or in GLib after the calls that have been made. -/
inductive Exit where
  | usage (message : String)
  | outside
  | endless
  | noProxy
  | failed (reason : String)
  | crashed (sent : List Call)
  deriving DecidableEq

def parseArgs (lib : Libs) (argv : List (List Char)) : Except Exit (Options × List (List Char)) :=
  match optionLoop lib.gDbusIsName argv (argv.length + 1) 1 initOptions with
  | .stopped i options =>
      match shiftArgs argv (i - 1) with
      | some argv => .ok (options, argv)
      | none => .error .outside
  | .exits message => .error (.usage message)
  | .outside => .error .outside
  | .running => .error .endless

def sampleLibs : Libs where
  inetPton4 text :=
    [("10.8.0.2", 33556490), ("192.0.2.1", 16908480), ("255.255.255.0", 16777215)].lookup
      (String.ofList text)
  inetPton6 _ := none
  inetNtop6 _ := []
  getaddrinfo4 _ := none
  gUtf8Validate text := text.all (·.toNat < 128)
  gDbusIsName text := text.contains '.' && text.all fun c => c.isAlphanum || c = '.'
  gDbusProxyNew _ := true
  nmUtilsIp4NetmaskToPrefix netmask := if netmask = 16777215 then 24 else 32
  nmIpRouteNew6 dest plen nextHop := some ⟨dest, plen, nextHop⟩

end AirVpn.Helper
