import AirVpn.Model.Cache

/-! # The kill-switch ruleset

`nm-airvpn-firewall.c`: the remotes of an OpenVPN config, the resolvers of
`/etc/resolv.conf` and the text of the nftables table that is loaded for them.
-/

namespace AirVpn

def nftTableName : String := "nm-airvpn-killswitch"
def rulesetFileName : String := "killswitch.nft"

/-! ## IP address literals -/

/-- One octet of `g_hostname_is_ip_address`'s IPv4 loop: no leading zero, at
most 255. -/
def parseIpv4Octet : List Char → Option (List Char)
  | '0' :: rest => some rest
  | p =>
      let digits := p.takeWhile gAsciiIsDigit
      if digits = [] || 3 < digits.length || 255 < leadingDigits p then none
      else some (p.dropWhile gAsciiIsDigit)

def parseIpv4 : Nat → List Char → Bool
  | 0, p => p = []
  | n + 1, p =>
      match parseIpv4Octet p with
      | none => false
      | some rest =>
          if n = 0 then rest = []
          else
            match rest with
            | '.' :: rest => parseIpv4 n rest
            | _ => false

/-- The IPv6 loop with `n` of the eight segments to go. `atStart` says that `p`
still is the beginning of the text. -/
def parseIpv6 : Nat → Bool → Bool → List Char → Bool
  | 0, _, _, p =>
      match p with
      | [] => true
      | '%' :: zone => zone ≠ []
      | _ => false
  | n + 1, atStart, skipped, p =>
      match p with
      | [] => skipped
      | '%' :: zone => zone ≠ [] && skipped
      | _ =>
          let needsColon := !atStart || gStrHasPrefix p [':', ':']
          let stripped :=
            if needsColon then
              match p with
              | ':' :: rest => some rest
              | _ => none
            else some p
          match stripped with
          | none => false
          | some [] => false
          | some (c :: rest) =>
              if c = ':' && !skipped then
                -- the text may end in "::"
                if rest = [] then parseIpv6 n false true []
                else parseIpv6 n (!needsColon) true (c :: rest)
              else
                let segment := (c :: rest).takeWhile gAsciiIsXDigit
                if segment = [] || 4 < segment.length then false
                else
                  match (c :: rest).dropWhile gAsciiIsXDigit with
                  | '.' :: _ =>
                      if n = 1 && !skipped || 1 ≤ n && skipped then parseIpv4 4 (c :: rest)
                      else false
                  | after => parseIpv6 n false skipped after

def gHostnameIsIpAddress (host : List Char) : Bool :=
  if host.contains ':' then parseIpv6 8 true false host else parseIpv4 4 host

/-! ## What a ruleset is built from besides the config -/

structure GInetAddress where
  isV6 : Bool
  text : List Char
  deriving DecidableEq, Repr

/-- `/etc/resolv.conf` if it can be read, the answers of the resolver (never an
empty list), and which IPv6 literals `g_inet_address_new_from_string` knows (a
zone index names an interface of this machine). `stray` is what a read behind the
tokens of a line finds there, a text or NULL, where the process outlives it: C
leaves that open, and a read that kills the daemon ends its run. -/
structure NetEnv where
  resolvConf : Option String
  lookupByName : List Char → Except GError { l : List GInetAddress // l ≠ [] }
  knownV6 : List Char → Bool
  stray : List Char → Option (List Char)

/-! ## The remotes of a config -/

structure RemoteEntry where
  host : List Char
  port : List Char
  proto : List Char
  deriving DecidableEq, Repr

def blanks : List Char := [' ', '\t']

def directiveTokens (keyword : String) (line : List Char) : Option (List (List Char)) :=
  let line := gStrstrip line
  if gStrHasPrefix line (keyword ++ " ").toList then some (gStrsplitSet line blanks) else none

/-- The first pass: the argument of the last `proto` line that has one. -/
def parseDefaultProto (lines : List (List Char)) : Option (List Char) :=
  lines.foldl
    (fun proto line =>
      match directiveTokens "proto" line with
      | none => proto
      | some tokens => (nonEmptyToken tokens 1).or proto)
    none

/-- What the second pass makes of a line. -/
inductive RemoteLine where
  | skipped
  | entry (entry : RemoteEntry)
  | overread (entry : RemoteEntry)
  deriving DecidableEq, Repr

namespace RemoteLine

def remote : RemoteLine → Option RemoteEntry
  | skipped => none
  | entry e | overread e => some e

def isOverread : RemoteLine → Bool
  | overread _ => true
  | _ => false

end RemoteLine

def parseRemoteLine (stray : List Char → Option (List Char)) (defaultProto : Option (List Char))
    (line : List Char) : RemoteLine :=
  match directiveTokens "remote" line with
  | none => .skipped
  | some tokens =>
      match nonEmptyToken tokens 1 with
      | none => .skipped
      | some host =>
          let port := (nonEmptyToken tokens 2).getD defaultPort.toList
          let proto := defaultProto.getD protocolUdp.toList
          -- `tokens[3]` is read even where `tokens[2]` is the NULL that ends the tokens
          if 3 ≤ tokens.length then .entry ⟨host, port, (nonEmptyToken tokens 3).getD proto⟩
          else .overread ⟨host, port, ((stray line).filter (· ≠ [])).getD proto⟩

/-- What `parse_remotes` comes to: it fails, it returns, or it has read behind the tokens
of some line, and returns if the process outlives that. -/
inductive Parsed where
  | failed (error : GError)
  | remotes (entries : List RemoteEntry)
  | overread (entries : List RemoteEntry)
  deriving DecidableEq, Repr

namespace Parsed

def ofLines (read : List RemoteLine) : Parsed :=
  match read.filterMap RemoteLine.remote with
  | [] => .failed ⟨.fileError, "The OpenVPN config has no “remote” directive."⟩
  | entries => if read.any RemoteLine.isOverread then .overread entries else .remotes entries

def result : Parsed → Except GError (List RemoteEntry)
  | failed e => .error e
  | remotes entries | overread entries => .ok entries

end Parsed

/-- `contents` is the text of the file, or the error of reading it. -/
def parseRemotes (stray : List Char → Option (List Char)) (contents : Except GError String) :
    Parsed :=
  match contents with
  | .error e => .failed e
  | .ok contents =>
      let lines := gStrsplit (cText contents) '\n'
      .ofLines (lines.map (parseRemoteLine stray (parseDefaultProto lines)))

/-! ## Rules -/

def nftProto (proto : List Char) : List Char :=
  if gStrHasPrefix proto protocolTcp.toList then protocolTcp.toList else protocolUdp.toList

/-- `%s daddr %s %s dport %s accept`. -/
def acceptRule (isV6 : Bool) (addr proto port : List Char) : List Char :=
  "\t\t".toList ++ (if isV6 then "ip6".toList else "ip".toList) ++ " daddr ".toList ++ addr ++
    " ".toList ++ proto ++ " dport ".toList ++ port ++ " accept\n".toList

def resolverRule (line : List Char) : List Char :=
  match directiveTokens "nameserver" line with
  | none => []
  | some tokens =>
      match nonEmptyToken tokens 1 with
      | none => []
      | some addr =>
          if gHostnameIsIpAddress addr then
            acceptRule (addr.contains ':') addr protocolUdp.toList "53".toList ++
              acceptRule (addr.contains ':') addr protocolTcp.toList "53".toList
          else []

def appendResolverRules (net : NetEnv) : List Char :=
  match net.resolvConf with
  | none => []
  | some contents => (gStrsplit (cText contents) '\n').flatMap resolverRule

def appendRemoteRules (net : NetEnv) (entry : RemoteEntry) : Except GError (List Char) :=
  let proto := nftProto entry.proto
  if gHostnameIsIpAddress entry.host then
    .ok (acceptRule (entry.host.contains ':' && net.knownV6 entry.host) entry.host proto entry.port)
  else
    match net.lookupByName entry.host with
    | .error e => .error e
    | .ok addresses =>
        .ok (addresses.val.flatMap fun addr => acceptRule addr.isV6 addr.text proto entry.port)

/-- The loop over the remotes stops at the first one that cannot be resolved. -/
def remoteRules (net : NetEnv) : List RemoteEntry → Except GError (List Char)
  | [] => .ok []
  | entry :: rest =>
      match appendRemoteRules net entry with
      | .error e => .error e
      | .ok rules =>
          match remoteRules net rest with
          | .error e => .error e
          | .ok more => .ok (rules ++ more)

def rulesetHead : List Char :=
  ("table inet " ++ nftTableName ++ " \x7b\n" ++
    "\tchain output \x7b\n" ++
    "\t\ttype filter hook output priority 0; policy drop;\n" ++
    "\t\toifname \"lo\" accept\n" ++
    "\t\toifname \"tun*\" accept\n" ++
    "\t\tct state established,related accept\n").toList

def lanRules : List Char :=
  ("\t\tip daddr \x7b 10.0.0.0/8, 172.16.0.0/12, 192.168.0.0/16 \x7d accept\n" ++
    "\t\tip6 daddr \x7b fe80::/10, fc00::/7 \x7d accept\n").toList

def rulesetTail : List Char := "\t\x7d\n\x7d\n".toList

def buildRuleset (net : NetEnv) (contents : Except GError String) (allowLan : Bool) :
    Except GError (List Char) :=
  match (parseRemotes net.stray contents).result with
  | .error e => .error e
  | .ok remotes =>
      match remoteRules net remotes with
      | .error e => .error e
      | .ok rules =>
          .ok (rulesetHead ++ appendResolverRules net ++ rules ++
            (if allowLan then lanRules else []) ++ rulesetTail)

/-! ## Arming -/

def readText (disk : Disk) (path : String) : Except GError String :=
  match disk path with
  | some (.text contents) => .ok contents
  | _ => .error ⟨.fileError, "Failed to open file “" ++ path ++ "”"⟩

/-- The ruleset that `nft -f` has loaded when `nm_airvpn_firewall_arm` returns
TRUE. `nft` is the outcome of running the command. -/
def nmAirvpnFirewallArm (nftAvailable : Bool) (statedir : String) (io : FileOps) (net : NetEnv)
    (nft : Option String) (contents : Except GError String) (allowLan : Bool) :
    Except GError (List Char) :=
  if !nftAvailable then
    .error ⟨.spawnError, "The “nft” binary is not installed; cannot enforce the kill switch."⟩
  else
    match buildRuleset net contents allowLan with
    | .error e => .error e
    | .ok ruleset =>
        match io.setContents (gBuildFilename [statedir, rulesetFileName]) with
        | some message => .error ⟨.fileError, message⟩
        | none =>
            match nft with
            | some message => .error ⟨.spawnError, message⟩
            | none => .ok ruleset

end AirVpn
