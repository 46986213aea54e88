import AirVpn.Firewall.Ruleset

/-! # What the kill switch lets out

The table as nft applies it to the packets that leave the machine. What the text of an
address or of a network is about is left open; everything else of a rule is read here. A
rule that is not read leaves the table without a meaning.
-/

namespace AirVpn

/-! ## Packets and rules -/

/-- What the output hook sees of a packet. Only TCP and UDP have ports. -/
structure Packet (Addr : Type*) where
  oifname : List Char
  isV6 : Bool
  daddr : Addr
  l4proto : List Char
  dport : Nat
  ctState : List Char

inductive NftMatch where
  | oifname (pattern : List Char)
  | daddr (isV6 : Bool) (texts : List (List Char))
  | dport (proto : List Char) (ports : List Nat)
  | ctState (states : List (List Char))
  deriving DecidableEq, Repr

/-- The name of an interface, up to a star at the end of the pattern. -/
def nameMatches (pattern name : List Char) : Bool :=
  if pattern.getLast? = some '*' then pattern.dropLast.isPrefixOf name else name = pattern

section

/-! `denotes` says what a text of an address or of a network is about. -/

variable {Addr : Type*} (denotes : List Char → Addr → Bool)

def NftMatch.holds (p : Packet Addr) : NftMatch → Bool
  | .oifname pattern => nameMatches pattern p.oifname
  | .daddr isV6 texts => p.isV6 = isV6 && texts.any fun text => denotes text p.daddr
  | .dport proto ports => p.l4proto = proto && ports.contains p.dport
  | .ctState states => states.contains p.ctState

def ruleAccepts (p : Packet Addr) (rule : List NftMatch) : Bool := rule.all (·.holds denotes p)

end

/-! ## Reading a rule -/

def readElements : List (List Char) → List (List Char) × List (List Char)
  | element :: comma :: rest =>
      if comma = [','] then (element :: (readElements rest).1, (readElements rest).2)
      else ([element], comma :: rest)
  | tokens => (tokens, [])

def readOperand : List (List Char) → Option (List (List Char) × List (List Char))
  | brace :: rest =>
      if brace = ['\x7b'] then
        if (readElements rest).2.head? = some ['\x7d'] then
          some ((readElements rest).1, (readElements rest).2.tail)
        else none
      else some (readElements (brace :: rest))
  | [] => none

def readPort (token : List Char) : Option Nat :=
  if Nat.toDigits 10 (Decimal.value token) = token then some (Decimal.value token) else none

def unquoted (token : List Char) : List Char := token.tail.dropLast

def readMatch : List (List Char) → Option (NftMatch × List (List Char))
  | family :: field :: rest =>
      if family = "oifname".toList then some (.oifname (unquoted field), rest)
      else if field = "daddr".toList && (family = "ip".toList || family = "ip6".toList) then
        (readOperand rest).map fun (texts, rest) => (.daddr (family = "ip6".toList) texts, rest)
      else if field = "dport".toList &&
          (family = protocolUdp.toList || family = protocolTcp.toList) then
        (readOperand rest).bind fun (tokens, rest) =>
          (tokens.mapM readPort).map fun ports => (.dport family ports, rest)
      else if family = "ct".toList && field = "state".toList then
        (readOperand rest).map fun (states, rest) => (.ctState states, rest)
      else none
  | _ => none

def readMatches : Nat → List (List Char) → Option (List NftMatch)
  | 0, _ => none
  | fuel + 1, tokens =>
      if tokens = ["accept".toList] then some []
      else
        (readMatch tokens).bind fun (first, rest) =>
          (readMatches fuel rest).map fun more => first :: more

def readRule (statement : List (List Char)) : Option (List NftMatch) :=
  readMatches statement.length statement

/-! ## Reading a table -/

def readBody : List (List (List Char)) → Option (List (List NftMatch))
  | statement :: rest =>
      if statement :: rest = tailStatements then some []
      else (readRule statement).bind fun rule => (readBody rest).map fun rules => rule :: rules
  | [] => none

/-- The rules of a table that is one chain of the output hook with policy drop. -/
def readTable (text : List Char) : Option (List (List NftMatch)) :=
  let statements := nftLexis.statements text
  if statements.take 4 = headStatements.take 4 then readBody (statements.drop 4) else none

/-- Whether a packet is let out under a table: some rule accepts it, or it is dropped. -/
def letsOut {Addr : Type*} (denotes : List Char → Addr → Bool) (text : List Char)
    (p : Packet Addr) : Option Bool :=
  (readTable text).map fun rules => rules.any (ruleAccepts denotes p)

/-! ## The rules of the plugin -/

def AcceptRule.matches (r : AcceptRule) : List NftMatch :=
  [.daddr (r.addr.contains ':') [r.addr], .dport r.proto [r.port]]

def headRules : List (List NftMatch) :=
  [[.oifname "lo".toList], [.oifname "tun*".toList],
    [.ctState ["established".toList, "related".toList]]]

def lanRuleset : List (List NftMatch) :=
  [[.daddr false ["10.0.0.0/8".toList, "172.16.0.0/12".toList, "192.168.0.0/16".toList]],
    [.daddr true ["fe80::/10".toList, "fc00::/7".toList]]]

theorem readPort_toDigits (n : Nat) : readPort (Nat.toDigits 10 n) = some n := by
  unfold readPort
  rw [Decimal.value_toDigits, if_pos rfl]

theorem readOperand_single {token next : List Char} (htoken : token ≠ ['\x7b'])
    (hnext : next ≠ [',']) (rest : List (List Char)) :
    readOperand (token :: next :: rest) = some ([token], next :: rest) := by
  rw [readOperand, if_neg htoken, readElements, if_neg hnext]

theorem ne_brace_of_plain {token : List Char} (h : PlainWord token) : token ≠ ['\x7b'] := by
  rintro rfl
  exact absurd (h.solid '\x7b' (List.mem_singleton_self _)).2 (by decide)

theorem readMatch_daddr (r : AcceptRule) (rest : List (List Char)) :
    readMatch ((if r.addr.contains ':' then "ip6".toList else "ip".toList) :: "daddr".toList ::
        r.addr :: r.proto :: rest) =
      some (.daddr (r.addr.contains ':') [r.addr], r.proto :: rest) := by
  have haddr := ne_brace_of_plain (plainWord_of_literal r.plain)
  have hproto : r.proto ≠ [','] := by rcases r.proto_known with h | h <;> rw [h] <;> decide
  rw [readMatch, readOperand_single haddr hproto]
  cases r.addr.contains ':' <;> rfl

theorem readMatch_dport (r : AcceptRule) :
    readMatch [r.proto, "dport".toList, Nat.toDigits 10 r.port, "accept".toList] =
      some (.dport r.proto [r.port], ["accept".toList]) := by
  have hport := ne_brace_of_plain (plainWord_toDigits r.port)
  have haccept : "accept".toList ≠ [','] := by decide
  have hread : [Nat.toDigits 10 r.port].mapM readPort = some [r.port] := by
    simp [readPort_toDigits]
  rw [readMatch, readOperand_single hport haccept]
  rcases r.proto_known with h | h
  · rw [h]
    dsimp only [Option.bind_some]
    rw [hread]
    rfl
  · rw [h]
    dsimp only [Option.bind_some]
    rw [hread]
    rfl

theorem readMatches_succ {family field : List Char} {tokens rest : List (List Char)}
    {first : NftMatch} (hread : readMatch (family :: field :: tokens) = some (first, rest))
    (fuel : Nat) :
    readMatches (fuel + 1) (family :: field :: tokens) =
      (readMatches fuel rest).map fun more => first :: more := by
  have hne : family :: field :: tokens ≠ ["accept".toList] := by
    intro heq
    cases (List.cons.inj heq).2
  rw [readMatches, if_neg hne, hread, Option.bind_some]

theorem readRule_statement (r : AcceptRule) : readRule r.statement = some r.matches := by
  have hdaddr := readMatch_daddr r ["dport".toList, Nat.toDigits 10 r.port, "accept".toList]
  have hdport := readMatch_dport r
  have hend : readMatches 5 ["accept".toList] = some [] := rfl
  show readMatches 7 _ = _
  rw [AcceptRule.statement, readMatches_succ hdaddr, readMatches_succ hdport, hend]
  rfl

theorem readBody_append {statements : List (List (List Char))} {rules : List (List NftMatch)}
    (h : statements.map readRule = rules.map some) (rest : List (List (List Char)))
    (hrest : 2 ≤ rest.length) :
    readBody (statements ++ rest) = (readBody rest).map fun more => rules ++ more := by
  induction statements generalizing rules with
  | nil =>
      have hrules : rules = [] := List.map_eq_nil_iff.mp h.symm
      rw [hrules, List.nil_append]
      exact Option.map_id'.symm
  | cons statement statements ih =>
      cases rules with
      | nil => cases h
      | cons rule rules =>
          obtain ⟨hfirst, hmore⟩ := List.cons.inj h
          have hnot : statement :: (statements ++ rest) ≠ tailStatements := by
            intro heq
            have hlength := congrArg List.length heq
            rw [List.length_cons, List.length_append] at hlength
            have htail : tailStatements.length = 2 := rfl
            omega
          rw [List.cons_append, readBody, if_neg hnot, hfirst, Option.bind_some, ih hmore,
            Option.map_map]
          rfl

def tableRules (rules : List AcceptRule) (allowLan : Bool) : List (List NftMatch) :=
  headRules ++ rules.map AcceptRule.matches ++ (if allowLan then lanRuleset else [])

theorem readTable_of_statements {text : List Char} {rules : List AcceptRule} {allowLan : Bool}
    (h : nftLexis.statements text = tableStatements rules allowLan) :
    readTable text = some (tableRules rules allowLan) := by
  have hhead : (headStatements.drop 4).map readRule = headRules.map some := by decide +kernel
  have hlan : (if allowLan then lanStatements else []).map readRule =
      (if allowLan then lanRuleset else []).map some := by
    cases allowLan with
    | false => rfl
    | true => decide +kernel
  have hrules : (rules.map AcceptRule.statement).map readRule =
      (rules.map AcceptRule.matches).map some := by
    rw [List.map_map, List.map_map]
    exact List.map_congr_left fun r _ => readRule_statement r
  have htail : readBody tailStatements = some [] := rfl
  have hframe : tableStatements rules allowLan = headStatements.take 4 ++
      (headStatements.drop 4 ++ rules.map AcceptRule.statement ++
        (if allowLan then lanStatements else []) ++ tailStatements) := by
    conv_lhs => rw [tableStatements, ← List.take_append_drop 4 headStatements]
    simp only [List.append_assoc]
  have hfour : (headStatements.take 4).length = 4 := rfl
  unfold readTable
  rw [h, hframe]
  dsimp only
  rw [List.take_left' hfour, if_pos rfl, List.drop_left' hfour,
    readBody_append _ _ (by decide), htail]
  · rw [Option.map_some, List.append_nil]
  · rw [List.map_append, List.map_append, hhead, hrules, hlan, ← List.map_append,
      ← List.map_append]
    rfl

/-! ## What is let out -/

section

variable {Addr : Type*} (denotes : List Char → Addr → Bool)

def Packet.To (p : Packet Addr) (text : List Char) : Prop :=
  p.isV6 = text.contains ':' ∧ denotes text p.daddr = true

def lanNetworks : List (List Char) :=
  ["10.0.0.0/8", "172.16.0.0/12", "192.168.0.0/16", "fe80::/10", "fc00::/7"].map String.toList

/-- What is meant to be let out: what stays on the machine or goes through the tunnel, the
packets of known connections, name lookups, the tunnel itself, and the local network if it
is allowed. -/
inductive Allowed (net : NetEnv) (contents : Except GError String) (allowLan : Bool)
    (p : Packet Addr) : Prop
  | loopback (hname : p.oifname = "lo".toList)
  | tunnel (hname : "tun".toList <+: p.oifname)
  | known (hstate : p.ctState ∈ ["established".toList, "related".toList])
  | resolver {addr : List Char} (haddr : addr ∈ nameservers net) (hto : p.To denotes addr)
      (hproto : p.l4proto = protocolUdp.toList ∨ p.l4proto = protocolTcp.toList)
      (hport : p.dport = 53)
  | remote {entry : RemoteEntry} {a : GInetAddress} (hentry : entry ∈ parsedRemotes net contents)
      (ha : a ∈ entryAddresses net entry) (hto : p.To denotes a.text)
      (hproto : p.l4proto = nftProto entry.proto) (hport : Nat.toDigits 10 p.dport = entry.port)
  | lan (hallow : allowLan = true) {text : List Char} (htext : text ∈ lanNetworks)
      (hto : p.To denotes text)

variable {denotes} {p : Packet Addr}

structure Pasted.Takes (denotes : List Char → Addr → Bool) (p : Packet Addr) (q : Pasted) :
    Prop where
  address : p.To denotes q.addr
  proto : p.l4proto = q.proto
  port : Nat.toDigits 10 p.dport = q.port

theorem toDigits_injective {m n : Nat} (h : Nat.toDigits 10 m = Nat.toDigits 10 n) : m = n := by
  rw [← Decimal.value_toDigits m, h, Decimal.value_toDigits]

theorem accepts_rule_iff (r : AcceptRule) :
    ruleAccepts denotes p r.matches = true ↔ r.pasted.Takes denotes p := by
  have hholds : ruleAccepts denotes p r.matches = true ↔
      (p.isV6 = r.addr.contains ':' ∧ denotes r.addr p.daddr = true) ∧
        p.l4proto = r.proto ∧ p.dport = r.port := by
    simp [ruleAccepts, AcceptRule.matches, NftMatch.holds]
  rw [hholds]
  constructor
  · rintro ⟨hto, hproto, hport⟩
    exact ⟨hto, hproto, congrArg (Nat.toDigits 10) hport⟩
  · rintro ⟨hto, hproto, hport⟩
    exact ⟨hto, hproto, toDigits_injective hport⟩

theorem accepts_head_iff :
    headRules.any (ruleAccepts denotes p) = true ↔ p.oifname = "lo".toList ∨
      "tun".toList <+: p.oifname ∨ p.ctState ∈ ["established".toList, "related".toList] := by
  have hlo : nameMatches "lo".toList p.oifname = true ↔ p.oifname = "lo".toList := by
    unfold nameMatches
    rw [if_neg (by decide), decide_eq_true_eq]
  have htun : nameMatches "tun*".toList p.oifname = true ↔ "tun".toList <+: p.oifname := by
    unfold nameMatches
    rw [if_pos (by decide), List.isPrefixOf_iff_prefix]
    rfl
  rw [← hlo, ← htun]
  simp [headRules, ruleAccepts, NftMatch.holds]

theorem accepts_lan_iff :
    lanRuleset.any (ruleAccepts denotes p) = true ↔ ∃ text ∈ lanNetworks, p.To denotes text := by
  have hv4 : ∀ text ∈ lanNetworks.take 3, text.contains ':' = false := by decide
  have hv6 : ∀ text ∈ lanNetworks.drop 3, text.contains ':' = true := by decide
  have hread : lanRuleset =
      [[.daddr false (lanNetworks.take 3)], [.daddr true (lanNetworks.drop 3)]] := rfl
  have hside : (∃ text ∈ lanNetworks, p.To denotes text) ↔
      (∃ text ∈ lanNetworks.take 3, p.To denotes text) ∨
        ∃ text ∈ lanNetworks.drop 3, p.To denotes text := by
    conv_lhs => rw [← List.take_append_drop 3 lanNetworks]
    simp only [List.mem_append, or_and_right, exists_or]
  have hsame : ∀ {texts : List (List Char)} {isV6 : Bool},
      (∀ text ∈ texts, text.contains ':' = isV6) →
        (ruleAccepts denotes p [.daddr isV6 texts] = true ↔ ∃ text ∈ texts, p.To denotes text) := by
    intro texts isV6 hfamily
    simp only [ruleAccepts, NftMatch.holds, List.all_cons, List.all_nil, Bool.and_true,
      Bool.and_eq_true, decide_eq_true_eq, List.any_eq_true, Packet.To]
    constructor
    · rintro ⟨hv, text, htext, hdenotes⟩
      exact ⟨text, htext, hv.trans (hfamily text htext).symm, hdenotes⟩
    · rintro ⟨text, htext, hv, hdenotes⟩
      exact ⟨hv.trans (hfamily text htext), text, htext, hdenotes⟩
  rw [hread, hside, ← hsame hv4, ← hsame hv6]
  simp

theorem allowed_iff {net : NetEnv} {contents : Except GError String} {allowLan : Bool} :
    Allowed denotes net contents allowLan p ↔
      (p.oifname = "lo".toList ∨ "tun".toList <+: p.oifname ∨
        p.ctState ∈ ["established".toList, "related".toList]) ∨
      (∃ q ∈ pastedResolvers net ++ pastedRemotes net (parsedRemotes net contents),
        q.Takes denotes p) ∨
      (allowLan = true ∧ ∃ text ∈ lanNetworks, p.To denotes text) := by
  have hdns : Nat.toDigits 10 53 = "53".toList := by decide
  constructor
  · rintro (h | h | h | ⟨haddr, hto, hproto, hport⟩ | ⟨hentry, ha, hto, hproto, hport⟩ |
      ⟨hallow, htext, hto⟩)
    · exact .inl (.inl h)
    · exact .inl (.inr (.inl h))
    · exact .inl (.inr (.inr h))
    · have hdigits : Nat.toDigits 10 p.dport = "53".toList := by rw [hport, hdns]
      refine .inr (.inl ?_)
      rcases hproto with hproto | hproto
      · exact ⟨_, List.mem_append_left _ (List.mem_flatMap.mpr ⟨_, haddr, List.mem_cons_self⟩),
          hto, hproto, hdigits⟩
      · exact ⟨_, List.mem_append_left _ (List.mem_flatMap.mpr ⟨_, haddr,
          List.mem_cons_of_mem _ (List.mem_singleton_self _)⟩), hto, hproto, hdigits⟩
    · exact .inr (.inl ⟨_, List.mem_append_right _ (List.mem_flatMap.mpr ⟨_, hentry,
        List.mem_map_of_mem ha⟩), hto, hproto, hport⟩)
    · exact .inr (.inr ⟨hallow, _, htext, hto⟩)
  · rintro ((h | h | h) | ⟨q, hq, htakes⟩ | ⟨hallow, text, htext, hto⟩)
    · exact .loopback h
    · exact .tunnel h
    · exact .known h
    · rcases List.mem_append.mp hq with hq | hq
      · obtain ⟨addr, haddr, hq⟩ := List.mem_flatMap.mp hq
        simp only [List.mem_cons, List.not_mem_nil, or_false] at hq
        have hport : p.dport = 53 := toDigits_injective (by
          rw [htakes.port, hdns]
          rcases hq with rfl | rfl <;> rfl)
        rcases hq with rfl | rfl
        · exact .resolver haddr htakes.address (.inl htakes.proto) hport
        · exact .resolver haddr htakes.address (.inr htakes.proto) hport
      · obtain ⟨entry, hentry, hq⟩ := List.mem_flatMap.mp hq
        obtain ⟨a, ha, rfl⟩ := List.mem_map.mp hq
        exact .remote hentry ha htakes.address htakes.proto htakes.port
    · exact .lan hallow htext hto

theorem statements_of_plain {net : NetEnv} (hnet : net.Sound) {contents : Except GError String}
    (hplain : PlainInputs net contents) {allowLan : Bool} {ruleset : List Char}
    (hbuild : buildRuleset net contents allowLan = .ok ruleset) :
    ∃ rules : List AcceptRule,
      rules.map AcceptRule.pasted =
        pastedResolvers net ++ pastedRemotes net (parsedRemotes net contents) ∧
      nftLexis.statements ruleset = tableStatements rules allowLan := by
  have hanswer : ∀ entry ∈ parsedRemotes net contents, ∀ a ∈ entryAddresses net entry,
      PlainLiteral a.text ∧ a.isV6 = a.text.contains ':' := by
    intro entry hentry a ha
    unfold entryAddresses at ha
    split at ha
    · next hip =>
        rw [List.mem_singleton.mp ha]
        have hhost := hplain.hosts entry hentry hip
        have hknown : entry.host.contains ':' = true → net.knownV6 entry.host = true :=
          fun hcolon => hnet.known _ hhost (List.contains_iff_mem.mp hcolon)
        refine ⟨hhost, ?_⟩
        cases hcolon : entry.host.contains ':' <;> simp_all
    · split at ha
      · cases ha
      · next addresses hlookup => exact hnet.answers _ _ hlookup a ha
  have hremotes : ∀ q ∈ pastedRemotes net (parsedRemotes net contents),
      q.Placed ∧ q ∈ Set.range AcceptRule.pasted := by
    intro q hq
    refine ⟨placed_of_remotes hnet hq, ?_⟩
    obtain ⟨entry, hentry, hq⟩ := List.mem_flatMap.mp hq
    obtain ⟨a, ha, rfl⟩ := List.mem_map.mp hq
    exact (mem_range_pasted (nftProto_known _)).mpr
      ⟨hanswer entry hentry a ha, hplain.ports entry hentry⟩
  have hall : ∀ q ∈ pastedResolvers net ++ pastedRemotes net (parsedRemotes net contents),
      q.Placed ∧ q ∈ Set.range AcceptRule.pasted := by
    intro q hq
    rcases List.mem_append.mp hq with hq | hq
    · exact ⟨placed_of_resolvers hq, (resolvers_in_range net).mpr hplain.nameservers q hq⟩
    · exact hremotes q hq
  obtain ⟨rules, hrules⟩ := (Set.range_list_map AcceptRule.pasted).ge fun q hq => (hall q hq).2
  have hlength := (congrArg List.length hrules).symm.trans (List.length_map _)
  refine ⟨rules, hrules, ?_⟩
  rw [buildRuleset_eq hbuild]
  exact (statements_eq_iff (fun q hq => (hall q hq).1) hlength allowLan).mpr hrules.symm

/-- While the kill switch is armed a packet leaves the machine exactly if that is meant. -/
theorem lets_out_iff {net : NetEnv} (hnet : net.Sound) {contents : Except GError String}
    (hplain : PlainInputs net contents) {allowLan : Bool} {ruleset : List Char}
    (hbuild : buildRuleset net contents allowLan = .ok ruleset)
    (denotes : List Char → Addr → Bool) (p : Packet Addr) :
    ∃ out, letsOut denotes ruleset p = some out ∧
      (out = true ↔ Allowed denotes net contents allowLan p) := by
  obtain ⟨rules, hrules, hstatements⟩ := statements_of_plain hnet hplain hbuild
  have hread : letsOut denotes ruleset p =
      some ((tableRules rules allowLan).any (ruleAccepts denotes p)) := by
    unfold letsOut
    rw [readTable_of_statements hstatements, Option.map_some]
  refine ⟨_, hread, ?_⟩
  have hpasted : (rules.map AcceptRule.matches).any (ruleAccepts denotes p) = true ↔
      ∃ q ∈ pastedResolvers net ++ pastedRemotes net (parsedRemotes net contents),
        q.Takes denotes p := by
    rw [← hrules, List.any_map, List.any_eq_true]
    simp only [Function.comp_apply, accepts_rule_iff, List.mem_map, exists_exists_and_eq_and]
  have hlan : (if allowLan then lanRuleset else []).any (ruleAccepts denotes p) = true ↔
      allowLan = true ∧ ∃ text ∈ lanNetworks, p.To denotes text := by
    cases allowLan with
    | false => simp
    | true => simpa using accepts_lan_iff
  unfold tableRules
  rw [allowed_iff, List.any_append, List.any_append, Bool.or_eq_true, Bool.or_eq_true,
    accepts_head_iff, hpasted, hlan, or_assoc]

end

end AirVpn
