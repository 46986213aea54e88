import Mathlib.Data.Set.List
import AirVpn.Firewall.Remotes
import AirVpn.Lib.Statements

/-! # What the ruleset admits

The text that `build_ruleset` writes, read back as nft reads it. Addresses and ports
are pasted as they stand in the config and in `/etc/resolv.conf`: the text is the
table that is meant exactly when none of them is read as syntax.
-/

namespace AirVpn

/-! ## nft's reading -/

/-- Statements end at newlines and semicolons; braces and commas are tokens. -/
def nftLexis : Lexis Char where
  blank c := c = ' ' || c = '\t'
  mark c := c = '\x7b' || c = '\x7d' || c = ','
  stop c := c = '\n' || c = ';'
  space := ' '
  blank_space := by decide
  mark_solid c h := by
    simp only [Bool.or_eq_true, decide_eq_true_eq] at h
    rcases h with (rfl | rfl) | rfl <;> decide

/-- A literal that is an address by itself. `g_hostname_is_ip_address` takes a zone,
which may be any text, and a lone colon as well. -/
structure PlainLiteral (addr : List Char) : Prop where
  literal : gHostnameIsIpAddress addr = true
  unzoned : '%' ∉ addr
  ne_colon : addr ≠ [':']

instance (addr : List Char) : Decidable (PlainLiteral addr) :=
  decidable_of_iff (gHostnameIsIpAddress addr = true ∧ '%' ∉ addr ∧ addr ≠ [':'])
    ⟨fun ⟨h, hzone, hcolon⟩ => ⟨h, hzone, hcolon⟩, fun h => ⟨h.literal, h.unzoned, h.ne_colon⟩⟩

/-- An address, a protocol and a port that packets are let through to. A port is a
number in its shortest form: nft reads a leading zero as octal. -/
structure AcceptRule where
  addr : List Char
  proto : List Char
  port : Nat
  plain : PlainLiteral addr
  proto_known : proto = protocolUdp.toList ∨ proto = protocolTcp.toList
  port_pos : 1 ≤ port
  port_le : port ≤ 65535

namespace AcceptRule

def statement (r : AcceptRule) : List (List Char) :=
  [if r.addr.contains ':' then "ip6".toList else "ip".toList, "daddr".toList, r.addr, r.proto,
    "dport".toList, Nat.toDigits 10 r.port, "accept".toList]

end AcceptRule

/-- One inet table with one output chain of policy drop. -/
def headStatements : List (List (List Char)) :=
  [["table", "inet", nftTableName, "\x7b"], ["chain", "output", "\x7b"],
    ["type", "filter", "hook", "output", "priority", "0"], ["policy", "drop"],
    ["oifname", "\"lo\"", "accept"], ["oifname", "\"tun*\"", "accept"],
    ["ct", "state", "established", ",", "related", "accept"]].map (List.map String.toList)

def lanStatements : List (List (List Char)) :=
  [["ip", "daddr", "\x7b", "10.0.0.0/8", ",", "172.16.0.0/12", ",", "192.168.0.0/16", "\x7d",
      "accept"],
    ["ip6", "daddr", "\x7b", "fe80::/10", ",", "fc00::/7", "\x7d", "accept"]].map
    (List.map String.toList)

def tailStatements : List (List (List Char)) :=
  [["\x7d"], ["\x7d"]].map (List.map String.toList)

def tableStatements (rules : List AcceptRule) (allowLan : Bool) : List (List (List Char)) :=
  headStatements ++ rules.map AcceptRule.statement ++ (if allowLan then lanStatements else []) ++
    tailStatements

/-! ## What is meant -/

def nameserver (line : List Char) : Option (List Char) :=
  match directiveTokens "nameserver" line with
  | none => none
  | some tokens => (nonEmptyToken tokens 1).filter gHostnameIsIpAddress

def nameservers (net : NetEnv) : List (List Char) :=
  match net.resolvConf with
  | none => []
  | some contents => (gStrsplit (cText contents) '\n').filterMap nameserver

def parsedRemotes (net : NetEnv) (contents : Except GError String) : List RemoteEntry :=
  (parseRemotes net.stray contents).result.toOption.getD []

def entryAddresses (net : NetEnv) (entry : RemoteEntry) : List GInetAddress :=
  if gHostnameIsIpAddress entry.host then
    [⟨entry.host.contains ':' && net.knownV6 entry.host, entry.host⟩]
  else
    match net.lookupByName entry.host with
    | .error _ => []
    | .ok addresses => addresses.val

/-- The text is the table, with port 53 of each nameserver and the protocol and the port of
each remote at each of its addresses. -/
def Admits (net : NetEnv) (contents : Except GError String) (allowLan : Bool)
    (ruleset : List Char) : Prop :=
  ∃ resolvers remotes : List AcceptRule,
    nftLexis.statements ruleset = tableStatements (resolvers ++ remotes) allowLan ∧
    resolvers.map (fun r => (r.addr, r.proto, r.port)) =
      (nameservers net).flatMap
        (fun addr => [(addr, protocolUdp.toList, 53), (addr, protocolTcp.toList, 53)]) ∧
    remotes.map (fun r => (r.addr, r.proto, Nat.toDigits 10 r.port)) =
      (parsedRemotes net contents).flatMap fun entry =>
        (entryAddresses net entry).map fun a => (a.text, nftProto entry.proto, entry.port)

/-- Nothing that is pasted can be read as syntax: ports are numbers, and literals are
addresses by themselves. -/
structure PlainInputs (net : NetEnv) (contents : Except GError String) : Prop where
  ports : ∀ entry ∈ parsedRemotes net contents,
    ∃ n, 1 ≤ n ∧ n ≤ 65535 ∧ entry.port = Nat.toDigits 10 n
  hosts : ∀ entry ∈ parsedRemotes net contents, gHostnameIsIpAddress entry.host = true →
    PlainLiteral entry.host
  nameservers : ∀ addr ∈ nameservers net, PlainLiteral addr

/-- What GLib documents: the resolver's answers are printed as literals of their
family, and an IPv6 address is known by its literal. -/
structure NetEnv.Sound (net : NetEnv) : Prop where
  answers : ∀ host addresses, net.lookupByName host = .ok addresses → ∀ a ∈ addresses.val,
    PlainLiteral a.text ∧ a.isV6 = a.text.contains ':'
  known : ∀ addr, PlainLiteral addr → ':' ∈ addr → net.knownV6 addr = true

/-! ## The text, rule by rule -/

/-- The arguments of one `g_string_append_printf`. -/
structure Pasted where
  isV6 : Bool
  addr : List Char
  proto : List Char
  port : List Char

namespace Pasted

def text (p : Pasted) : List Char := acceptRule p.isV6 p.addr p.proto p.port

end Pasted

def pastedResolvers (net : NetEnv) : List Pasted :=
  (nameservers net).flatMap fun addr =>
    [⟨addr.contains ':', addr, protocolUdp.toList, "53".toList⟩,
      ⟨addr.contains ':', addr, protocolTcp.toList, "53".toList⟩]

def pastedRemotes (net : NetEnv) (entries : List RemoteEntry) : List Pasted :=
  entries.flatMap fun entry =>
    (entryAddresses net entry).map fun a => ⟨a.isV6, a.text, nftProto entry.proto, entry.port⟩

theorem resolverRule_eq (line : List Char) :
    resolverRule line =
      (nameserver line).toList.flatMap fun addr =>
        acceptRule (addr.contains ':') addr protocolUdp.toList "53".toList ++
          acceptRule (addr.contains ':') addr protocolTcp.toList "53".toList := by
  unfold resolverRule nameserver
  cases directiveTokens "nameserver" line with
  | none => rfl
  | some tokens =>
      cases htoken : nonEmptyToken tokens 1 with
      | none => simp [htoken]
      | some addr =>
          by_cases hip : gHostnameIsIpAddress addr = true
          · simp [htoken, hip, Option.filter]
          · simp [htoken, hip, Option.filter]

theorem appendResolverRules_eq (net : NetEnv) :
    appendResolverRules net = (pastedResolvers net).flatMap Pasted.text := by
  unfold appendResolverRules pastedResolvers nameservers
  cases net.resolvConf with
  | none => rfl
  | some contents =>
      simp only [funext resolverRule_eq]
      induction gStrsplit (cText contents) '\n' with
      | nil => rfl
      | cons line lines ih =>
          rw [List.flatMap_cons, ih, List.filterMap_cons]
          cases nameserver line with
          | none => rfl
          | some addr => simp [Pasted.text]

theorem appendRemoteRules_eq {net : NetEnv} {entry : RemoteEntry} {rules : List Char}
    (h : appendRemoteRules net entry = .ok rules) :
    rules = (pastedRemotes net [entry]).flatMap Pasted.text := by
  unfold appendRemoteRules at h
  unfold pastedRemotes entryAddresses
  by_cases hip : gHostnameIsIpAddress entry.host = true
  · rw [if_pos hip] at h
    cases h
    simp [hip, Pasted.text]
  · rw [if_neg hip] at h
    cases hlookup : net.lookupByName entry.host with
    | error e =>
        rw [hlookup] at h
        cases h
    | ok addresses =>
        rw [hlookup] at h
        cases h
        simp [hip, hlookup, List.flatMap_map, Pasted.text]

theorem remoteRules_eq {net : NetEnv} {entries : List RemoteEntry} {rules : List Char}
    (h : remoteRules net entries = .ok rules) :
    rules = (pastedRemotes net entries).flatMap Pasted.text := by
  induction entries generalizing rules with
  | nil =>
      cases h
      rfl
  | cons entry entries ih =>
      unfold remoteRules at h
      cases hfirst : appendRemoteRules net entry with
      | error e =>
          rw [hfirst] at h
          cases h
      | ok first =>
          cases hmore : remoteRules net entries with
          | error e =>
              rw [hfirst, hmore] at h
              cases h
          | ok more =>
              rw [hfirst, hmore] at h
              cases h
              have hone : pastedRemotes net (entry :: entries) =
                  pastedRemotes net [entry] ++ pastedRemotes net entries := by
                simp [pastedRemotes]
              rw [hone, List.flatMap_append, ← appendRemoteRules_eq hfirst, ← ih hmore]

theorem remoteRules_of_build {net : NetEnv} {contents : Except GError String} {allowLan : Bool}
    {ruleset : List Char} (h : buildRuleset net contents allowLan = .ok ruleset) :
    ∃ rules, remoteRules net (parsedRemotes net contents) = .ok rules ∧
      ruleset = rulesetHead ++ appendResolverRules net ++ rules ++
        (if allowLan then lanRules else []) ++ rulesetTail := by
  unfold buildRuleset at h
  cases hparse : (parseRemotes net.stray contents).result with
  | error e =>
      rw [hparse] at h
      cases h
  | ok entries =>
      have hentries : parsedRemotes net contents = entries := by
        rw [parsedRemotes, hparse]
        rfl
      rw [hentries]
      cases hrules : remoteRules net entries with
      | error e =>
          simp only [hparse, hrules] at h
          cases h
      | ok rules =>
          simp only [hparse, hrules] at h
          exact ⟨rules, rfl, (Except.ok.inj h).symm⟩

theorem buildRuleset_eq {net : NetEnv} {contents : Except GError String} {allowLan : Bool}
    {ruleset : List Char} (h : buildRuleset net contents allowLan = .ok ruleset) :
    ruleset = rulesetHead ++
      ((pastedResolvers net ++
        pastedRemotes net (parsedRemotes net contents)).flatMap Pasted.text ++
          ((if allowLan then lanRules else []) ++ rulesetTail)) := by
  obtain ⟨rules, hrules, hruleset⟩ := remoteRules_of_build h
  rw [hruleset, List.flatMap_append, ← appendResolverRules_eq, ← remoteRules_eq hrules]
  simp only [List.append_assoc]

/-! ## Literals -/

def isLiteralChar (c : Char) : Bool := gAsciiIsXDigit c || c = ':' || c = '.'

theorem isLiteralChar_of_digit {c : Char} (h : gAsciiIsDigit c = true) :
    isLiteralChar c = true := by
  simp [isLiteralChar, gAsciiIsXDigit, h]

theorem isLiteralChar_of_xDigit {c : Char} (h : gAsciiIsXDigit c = true) :
    isLiteralChar c = true := by
  simp [isLiteralChar, h]

theorem parseIpv4Octet_eq_some {p rest : List Char} (h : parseIpv4Octet p = some rest) :
    ∃ digits, p = digits ++ rest ∧ ∀ c ∈ digits, gAsciiIsDigit c = true := by
  unfold parseIpv4Octet at h
  split at h
  · cases h
    exact ⟨['0'], rfl, by simp [gAsciiIsDigit]⟩
  · dsimp only at h
    split at h
    · cases h
    · cases h
      exact ⟨p.takeWhile gAsciiIsDigit, List.takeWhile_append_dropWhile.symm,
        fun c hc => List.mem_takeWhile_imp hc⟩

theorem parseIpv4_chars {n : Nat} {p : List Char} (h : parseIpv4 n p = true) :
    ∀ c ∈ p, isLiteralChar c = true := by
  induction n generalizing p with
  | zero =>
      have hp : p = [] := of_decide_eq_true h
      simp [hp]
  | succ n ih =>
      unfold parseIpv4 at h
      split at h
      · cases h
      · next rest hoctet =>
          obtain ⟨digits, rfl, hdigits⟩ := parseIpv4Octet_eq_some hoctet
          have hrest : ∀ c ∈ rest, isLiteralChar c = true := by
            split at h
            · have hnil : rest = [] := of_decide_eq_true h
              simp [hnil]
            · split at h
              · intro c hc
                rcases List.mem_cons.mp hc with rfl | hc
                · rfl
                · exact ih h c hc
              · cases h
          intro c hc
          rcases List.mem_append.mp hc with hc | hc
          · exact isLiteralChar_of_digit (hdigits c hc)
          · exact hrest c hc

/-- What one round of the IPv6 loop takes off a text that does not end and has no
zone. -/
theorem parseIpv6_succ {n : Nat} {atStart skipped : Bool} {p : List Char}
    (h : parseIpv6 (n + 1) atStart skipped p = true) (hne : p ≠ []) (hzone : '%' ∉ p) :
    ∃ rest, (p = rest ∨ p = ':' :: rest) ∧
      (rest = [':'] ∨ parseIpv4 4 rest = true ∨
        ∃ segment after atStart' skipped', rest = segment ++ after ∧
          (∀ c ∈ segment, gAsciiIsXDigit c = true) ∧
          parseIpv6 n atStart' skipped' after = true) := by
  unfold parseIpv6 at h
  split at h
  · exact absurd rfl hne
  · exact absurd List.mem_cons_self hzone
  · dsimp only at h
    split at h
    · cases h
    · cases h
    · next c rest hstripped =>
        refine ⟨c :: rest, ?_, ?_⟩
        · split at hstripped
          · split at hstripped
            · cases hstripped
              exact .inr rfl
            · cases hstripped
          · exact .inl (Option.some.inj hstripped)
        · split at h
          · next hcolon =>
              simp only [Bool.and_eq_true, decide_eq_true_eq] at hcolon
              obtain ⟨rfl, -⟩ := hcolon
              split at h
              · next hend => exact .inl (by rw [hend])
              · exact .inr (.inr ⟨[], _, _, _, rfl, by simp, h⟩)
          · split at h
            · cases h
            · split at h
              · split at h
                · exact .inr (.inl h)
                · cases h
              · exact .inr (.inr ⟨_, _, _, _, List.takeWhile_append_dropWhile.symm,
                  fun c hc => List.mem_takeWhile_imp hc, h⟩)

theorem parseIpv6_chars {n : Nat} {atStart skipped : Bool} {p : List Char}
    (h : parseIpv6 n atStart skipped p = true) (hzone : '%' ∉ p) :
    ∀ c ∈ p, isLiteralChar c = true := by
  induction n generalizing atStart skipped p with
  | zero =>
      unfold parseIpv6 at h
      split at h
      · simp
      · exact absurd List.mem_cons_self hzone
      · cases h
  | succ n ih =>
      by_cases hne : p = []
      · simp [hne]
      · obtain ⟨rest, hp, hround⟩ := parseIpv6_succ h hne hzone
        have hsub : ∀ c ∈ rest, c ∈ p := by
          rcases hp with rfl | rfl
          · exact fun _ hc => hc
          · exact fun _ hc => List.mem_cons_of_mem _ hc
        have hrest : ∀ c ∈ rest, isLiteralChar c = true := by
          rcases hround with rfl | hv4 | ⟨segment, after, _, _, rfl, hsegment, hafter⟩
          · simp [isLiteralChar]
          · exact parseIpv4_chars hv4
          · intro c hc
            rcases List.mem_append.mp hc with hc | hc
            · exact isLiteralChar_of_xDigit (hsegment c hc)
            · exact ih hafter (fun hm => hzone (hsub _ (List.mem_append_right _ hm))) c hc
        rcases hp with rfl | rfl
        · exact hrest
        · intro c hc
          rcases List.mem_cons.mp hc with rfl | hc
          · rfl
          · exact hrest c hc

theorem literal_chars {addr : List Char} (h : gHostnameIsIpAddress addr = true)
    (hzone : '%' ∉ addr) : ∀ c ∈ addr, isLiteralChar c = true := by
  unfold gHostnameIsIpAddress at h
  split at h
  · exact parseIpv6_chars h hzone
  · exact parseIpv4_chars h

/-! ## Reading the text back -/

theorem toList_foldl (first : String) (lines : List String) :
    (lines.foldl (· ++ ·) first).toList = ((first :: lines).map String.toList).flatten := by
  induction lines generalizing first with
  | nil => exact (List.append_nil _).symm
  | cons line lines ih =>
      rw [List.foldl_cons, ih, List.map_cons, List.flatten_cons, String.toList_append,
        List.append_assoc]
      rfl

def headLines : List String :=
  ["table inet " ++ nftTableName ++ " \x7b\n", "\tchain output \x7b\n",
    "\t\ttype filter hook output priority 0; policy drop;\n", "\t\toifname \"lo\" accept\n",
    "\t\toifname \"tun*\" accept\n", "\t\tct state established,related accept\n"]

def lanLines : List String :=
  ["\t\tip daddr \x7b 10.0.0.0/8, 172.16.0.0/12, 192.168.0.0/16 \x7d accept\n",
    "\t\tip6 daddr \x7b fe80::/10, fc00::/7 \x7d accept\n"]

theorem statements_head (rest : List Char) :
    nftLexis.statements (rulesetHead ++ rest) = headStatements ++ nftLexis.statements rest := by
  have hcut : rulesetHead = (headLines.map String.toList).flatten :=
    toList_foldl _ headLines.tail
  have hend : ∀ line ∈ headLines.map String.toList, line.getLast? = some '\n' := by
    decide +kernel
  have hread : ((headLines.map String.toList).map nftLexis.statements).flatten =
      headStatements := by decide +kernel
  rw [hcut, Lexis.statements_lines (by decide) hend, hread]

theorem statements_lan (allowLan : Bool) (rest : List Char) :
    nftLexis.statements ((if allowLan then lanRules else []) ++ rest) =
      (if allowLan then lanStatements else []) ++ nftLexis.statements rest := by
  have hcut : lanRules = (lanLines.map String.toList).flatten := toList_foldl _ lanLines.tail
  have hend : ∀ line ∈ lanLines.map String.toList, line.getLast? = some '\n' := by
    decide +kernel
  have hread : ((lanLines.map String.toList).map nftLexis.statements).flatten =
      lanStatements := by decide +kernel
  cases allowLan with
  | false => rfl
  | true => rw [if_pos rfl, if_pos rfl, hcut, Lexis.statements_lines (by decide) hend, hread]

theorem statements_tail : nftLexis.statements rulesetTail = tailStatements := by decide +kernel

structure PlainWord (text : List Char) : Prop where
  solid : nftLexis.Solid text
  no_stop : ∀ c ∈ text, nftLexis.stop c = false
  ne_nil : text ≠ []

theorem plain_of_literalChar {c : Char} (h : isLiteralChar c = true) :
    nftLexis.blank c = false ∧ nftLexis.mark c = false ∧ nftLexis.stop c = false := by
  have hnot : c ∉ [' ', '\t', '\x7b', '\x7d', ',', '\n', ';'] := by
    intro hmem
    have hall : ∀ d ∈ [' ', '\t', '\x7b', '\x7d', ',', '\n', ';'], isLiteralChar d = false :=
      Text.forall_of_all (by decide)
    exact absurd h (by simp [hall c hmem])
  simp only [List.mem_cons, List.not_mem_nil, or_false, not_or] at hnot
  simp [nftLexis, hnot]

theorem plainWord_of_chars {text : List Char} (h : ∀ c ∈ text, isLiteralChar c = true)
    (hne : text ≠ []) : PlainWord text where
  solid c hc := ⟨(plain_of_literalChar (h c hc)).1, (plain_of_literalChar (h c hc)).2.1⟩
  no_stop c hc := (plain_of_literalChar (h c hc)).2.2
  ne_nil := hne

theorem plainWord_of_literal {addr : List Char} (h : PlainLiteral addr) : PlainWord addr := by
  refine plainWord_of_chars (literal_chars h.literal h.unzoned) ?_
  rintro rfl
  exact absurd h.literal (by decide)

theorem plainWord_toDigits (n : Nat) : PlainWord (Nat.toDigits 10 n) := by
  have hplain := Decimal.plain_toDigits n
  refine plainWord_of_chars (fun c hc => ?_) hplain.ne_nil
  exact isLiteralChar_of_digit (gAsciiIsDigit_eq c ▸ hplain.digits c hc)

theorem plainWord_keyword {text : List Char}
    (h : text ∈ ["ip6".toList, "ip".toList, protocolUdp.toList, protocolTcp.toList]) :
    PlainWord text := by
  have hall : ∀ text ∈ ["ip6".toList, "ip".toList, protocolUdp.toList, protocolTcp.toList],
      (text.all fun c => !nftLexis.blank c && !nftLexis.mark c && !nftLexis.stop c) = true ∧
        text ≠ [] := by decide
  obtain ⟨hletters, hne⟩ := hall text h
  have hplain : ∀ c ∈ text, (nftLexis.blank c = false ∧ nftLexis.mark c = false) ∧
      nftLexis.stop c = false := by simpa using hletters
  exact ⟨fun c hc => (hplain c hc).1, fun c hc => (hplain c hc).2, hne⟩

/-! ## One rule -/

/-- Whatever is pasted is one word of its line, with a known protocol. -/
structure Pasted.Placed (p : Pasted) : Prop where
  addr_ne : p.addr ≠ []
  addr_word : ∀ c ∈ p.addr, nftLexis.blank c = false
  port_ne : p.port ≠ []
  port_word : ∀ c ∈ p.port, nftLexis.blank c = false
  proto_known : p.proto = protocolUdp.toList ∨ p.proto = protocolTcp.toList

def AcceptRule.pasted (r : AcceptRule) : Pasted where
  isV6 := r.addr.contains ':'
  addr := r.addr
  proto := r.proto
  port := Nat.toDigits 10 r.port

namespace Pasted

variable {p : Pasted}

def family (p : Pasted) : List Char := if p.isV6 then "ip6".toList else "ip".toList

def words (p : Pasted) : List (List Char) :=
  [p.family, "daddr".toList, p.addr, p.proto, "dport".toList, p.port, "accept".toList]

def line (p : Pasted) : List Char := '\t' :: '\t' :: [' '].intercalate p.words

theorem text_eq (p : Pasted) : p.text = p.line ++ ['\n'] := by
  show "\t\t".toList ++ p.family ++ " daddr ".toList ++ p.addr ++ " ".toList ++ p.proto ++
    " dport ".toList ++ p.port ++ " accept\n".toList = p.line ++ ['\n']
  simp [line, words, List.intercalate_cons_cons]

theorem statements_texts (pasted : List Pasted) (rest : List Char) :
    nftLexis.statements (pasted.flatMap text ++ rest) =
      (pasted.map fun p => nftLexis.statements p.text).flatten ++ nftLexis.statements rest := by
  rw [List.flatMap_def, Lexis.statements_lines (c := '\n') (by decide), List.map_map]
  · rfl
  · intro line hline
    obtain ⟨p, _, rfl⟩ := List.mem_map.mp hline
    rw [text_eq, List.getLast?_concat]

theorem statements_text (p : Pasted) :
    nftLexis.statements p.text = nftLexis.statements p.line := by
  rw [text_eq, Lexis.statements_append_cons (by decide), Lexis.statements_nil, List.append_nil]

theorem plainWord_family (p : Pasted) : PlainWord p.family := by
  apply plainWord_keyword
  unfold family
  cases p.isV6 <;> simp

theorem Placed.plainWord_proto (h : p.Placed) : PlainWord p.proto := by
  apply plainWord_keyword
  rcases h.proto_known with hp | hp <;> simp [hp]

theorem Placed.tokens_line (h : p.Placed) :
    nftLexis.tokens p.line =
      p.family :: "daddr".toList :: (nftLexis.tokens p.addr ++
        p.proto :: "dport".toList :: (nftLexis.tokens p.port ++ ["accept".toList])) := by
  have hproto := h.plainWord_proto
  have hfamily := plainWord_family p
  have htabs : nftLexis.tokens p.line = nftLexis.tokens ([' '].intercalate p.words) := by
    rw [line, ← List.nil_append (_ :: _), Lexis.tokens_append_cons (by decide),
      ← List.nil_append (_ :: _), Lexis.tokens_append_cons (by decide)]
    rfl
  rw [htabs, Lexis.tokens_intercalate (by decide)]
  simp only [words, List.map_cons, List.map_nil, Lexis.tokens_of_solid hproto.solid hproto.ne_nil,
    Lexis.tokens_of_solid hfamily.solid hfamily.ne_nil]
  rfl

theorem no_stop_of_line {statement : List (List Char)}
    (h : nftLexis.statements p.line = [statement]) :
    (∀ c ∈ p.addr, nftLexis.stop c = false) ∧ ∀ c ∈ p.port, nftLexis.stop c = false := by
  constructor
  · have hcut : p.line = ("\t\t".toList ++ p.family ++ " daddr ".toList) ++ p.addr ++
        (" ".toList ++ p.proto ++ " dport ".toList ++ p.port ++ " accept".toList) := by
      simp [line, words, List.intercalate_cons_cons]
    rw [hcut] at h
    exact Lexis.no_stop_of_statements (c := 'd') (d := 'd') (by simp) (by decide) (by decide)
      (by simp) (by decide) (by decide) h
  · have hcut : p.line = ("\t\t".toList ++ p.family ++ " daddr ".toList ++ p.addr ++ " ".toList ++
        p.proto ++ " dport ".toList) ++ p.port ++ " accept".toList := by
      simp [line, words, List.intercalate_cons_cons]
    rw [hcut] at h
    exact Lexis.no_stop_of_statements (c := 'd') (d := 'a') (by simp) (by decide) (by decide)
      (by simp) (by decide) (by decide) h

theorem Placed.no_stop_line (h : p.Placed) (haddr : ∀ c ∈ p.addr, nftLexis.stop c = false)
    (hport : ∀ c ∈ p.port, nftLexis.stop c = false) :
    ∀ c ∈ p.line, nftLexis.stop c = false := by
  have hwords : ∀ c ∈ [' '].intercalate p.words, nftLexis.stop c = false := by
    apply Text.forall_mem_intercalate (P := fun c => nftLexis.stop c = false) (by decide)
    intro word hword
    simp only [words, List.mem_cons, List.not_mem_nil, or_false] at hword
    rcases hword with rfl | rfl | rfl | rfl | rfl | rfl | rfl
    · exact (plainWord_family p).no_stop
    · exact Text.forall_of_all (by decide)
    · exact haddr
    · exact h.plainWord_proto.no_stop
    · exact Text.forall_of_all (by decide)
    · exact hport
    · exact Text.forall_of_all (by decide)
  intro c hc
  rcases List.mem_cons.mp hc with rfl | hc
  · decide
  · rcases List.mem_cons.mp hc with rfl | hc
    · decide
    · exact hwords c hc

/-- The text of a rule is read as one rule that admits one address and one port
exactly when these are what was pasted. -/
theorem Placed.reads_iff (h : p.Placed) (r : AcceptRule) :
    nftLexis.statements p.text = [r.statement] ↔ p = r.pasted := by
  rw [statements_text]
  constructor
  · intro hread
    obtain ⟨haddrStop, hportStop⟩ := no_stop_of_line hread
    obtain ⟨c, haddrMem⟩ := List.exists_mem_of_ne_nil _ h.addr_ne
    obtain ⟨d, hportMem⟩ := List.exists_mem_of_ne_nil _ h.port_ne
    have haddrSome := Lexis.tokens_ne_nil haddrMem (h.addr_word c haddrMem)
    have hportSome := Lexis.tokens_ne_nil hportMem (h.port_word d hportMem)
    have htokens := h.tokens_line
    have hne : nftLexis.tokens p.line ≠ [] := by
      rw [htokens]
      exact List.cons_ne_nil _ _
    rw [Lexis.statements_of_line (h.no_stop_line haddrStop hportStop) hne, htokens,
      List.singleton_inj] at hread
    obtain ⟨a, addrs, haddr⟩ := List.exists_cons_of_ne_nil haddrSome
    obtain ⟨b, ports, hport⟩ := List.exists_cons_of_ne_nil hportSome
    rw [haddr, hport] at hread
    have hlength := congrArg List.length hread
    simp only [AcceptRule.statement, List.length_cons, List.length_append,
      List.length_nil] at hlength
    have haddrs : addrs = [] := List.length_eq_zero_iff.mp (by omega)
    have hports : ports = [] := List.length_eq_zero_iff.mp (by omega)
    subst haddrs hports
    simp only [AcceptRule.statement, List.cons_append, List.nil_append, List.cons.injEq, true_and,
      and_true] at hread
    obtain ⟨hfamily, ha, hproto, hb⟩ := hread
    have haddrEq := (Lexis.eq_of_tokens h.addr_word haddr).trans ha
    have hportEq := (Lexis.eq_of_tokens h.port_word hport).trans hb
    have hv6 : p.isV6 = r.addr.contains ':' := by
      unfold family at hfamily
      revert hfamily
      cases p.isV6 <;> cases r.addr.contains ':' <;> decide
    obtain ⟨v6, addr, proto, port⟩ := p
    unfold AcceptRule.pasted
    congr
  · rintro rfl
    have haddr := plainWord_of_literal r.plain
    have hport := plainWord_toDigits r.port
    have htokens := h.tokens_line
    rw [AcceptRule.pasted, Lexis.tokens_of_solid haddr.solid haddr.ne_nil,
      Lexis.tokens_of_solid hport.solid hport.ne_nil] at htokens
    rw [Lexis.statements_of_line (h.no_stop_line haddr.no_stop hport.no_stop)
      (by rw [AcceptRule.pasted, htokens]; exact List.cons_ne_nil _ _)]
    exact congrArg (fun tokens => [tokens]) htokens

end Pasted

/-! ## What is pasted -/

theorem token_word {keyword : String} {line token : List Char} {tokens : List (List Char)} {i : Nat}
    (htokens : directiveTokens keyword line = some tokens)
    (htoken : nonEmptyToken tokens i = some token) :
    token ≠ [] ∧ ∀ c ∈ token, nftLexis.blank c = false := by
  obtain ⟨hget, hne⟩ := Option.filter_eq_some_iff.mp htoken
  refine ⟨by simpa using hne, fun c hc => ?_⟩
  have hmem : token ∈ tokens := List.mem_of_getElem? hget
  unfold directiveTokens at htokens
  dsimp only at htokens
  split at htokens
  · rw [← Option.some.inj htokens, gStrsplitSet] at hmem
    split at hmem
    · cases hmem
    · have hblank := (Text.mem_of_mem_splitOnP hmem hc).2
      simp only [blanks, List.contains_cons, List.contains_nil, Bool.or_false, Bool.or_eq_false_iff,
        beq_eq_false_iff_ne] at hblank
      simp [nftLexis, hblank]
  · cases htokens

theorem nameserver_word {line addr : List Char} (h : nameserver line = some addr) :
    gHostnameIsIpAddress addr = true ∧ addr ≠ [] ∧ ∀ c ∈ addr, nftLexis.blank c = false := by
  unfold nameserver at h
  split at h
  · cases h
  · next tokens htokens =>
      obtain ⟨htoken, hip⟩ := Option.filter_eq_some_iff.mp h
      exact ⟨hip, token_word htokens htoken⟩

theorem mem_nameservers {net : NetEnv} {addr : List Char} (h : addr ∈ nameservers net) :
    gHostnameIsIpAddress addr = true ∧ addr ≠ [] ∧ ∀ c ∈ addr, nftLexis.blank c = false := by
  unfold nameservers at h
  split at h
  · cases h
  · obtain ⟨line, _, hline⟩ := List.mem_filterMap.mp h
    exact nameserver_word hline

theorem remoteLine_word {stray : List Char → Option (List Char)} {proto : Option (List Char)}
    {line : List Char} {entry : RemoteEntry}
    (h : (parseRemoteLine stray proto line).remote = some entry) :
    (entry.host ≠ [] ∧ ∀ c ∈ entry.host, nftLexis.blank c = false) ∧
      entry.port ≠ [] ∧ ∀ c ∈ entry.port, nftLexis.blank c = false := by
  unfold parseRemoteLine at h
  cases htokens : directiveTokens "remote" line with
  | none => simp [htokens, RemoteLine.remote] at h
  | some tokens =>
      cases hhost : nonEmptyToken tokens 1 with
      | none => simp [htokens, hhost, RemoteLine.remote] at h
      | some host =>
          have hport : (nonEmptyToken tokens 2).getD defaultPort.toList ≠ [] ∧
              ∀ c ∈ (nonEmptyToken tokens 2).getD defaultPort.toList,
                nftLexis.blank c = false := by
            cases hport : nonEmptyToken tokens 2 with
            | none => exact ⟨by decide, Text.forall_of_all (by decide)⟩
            | some port => exact token_word htokens hport
          simp only [htokens, hhost] at h
          split at h <;> cases h <;> exact ⟨token_word htokens hhost, hport⟩

theorem parsedRemotes_word {net : NetEnv} {contents : Except GError String} {entry : RemoteEntry}
    (h : entry ∈ parsedRemotes net contents) :
    (entry.host ≠ [] ∧ ∀ c ∈ entry.host, nftLexis.blank c = false) ∧
      entry.port ≠ [] ∧ ∀ c ∈ entry.port, nftLexis.blank c = false := by
  unfold parsedRemotes at h
  cases contents with
  | error e => cases h
  | ok text =>
      rw [parseRemotes_ok] at h
      cases hread : (Parsed.ofLines (readLines net.stray text)).result with
      | error e =>
          rw [hread] at h
          cases h
      | ok entries =>
          rw [hread, ← Parsed.ofLines_result hread] at h
          obtain ⟨read, hmem, hentry⟩ := List.mem_filterMap.mp h
          obtain ⟨line, _, rfl⟩ := List.mem_map.mp hmem
          exact remoteLine_word hentry

theorem nftProto_known (proto : List Char) :
    nftProto proto = protocolUdp.toList ∨ nftProto proto = protocolTcp.toList := by
  unfold nftProto
  split
  · exact .inr rfl
  · exact .inl rfl

theorem placed_of_resolvers {net : NetEnv} {p : Pasted} (h : p ∈ pastedResolvers net) :
    p.Placed := by
  obtain ⟨addr, haddr, hp⟩ := List.mem_flatMap.mp h
  obtain ⟨_, hne, hword⟩ := mem_nameservers haddr
  simp only [List.mem_cons, List.not_mem_nil, or_false] at hp
  have hport : "53".toList ≠ [] ∧ ∀ c ∈ "53".toList, nftLexis.blank c = false :=
    ⟨by decide, Text.forall_of_all (by decide)⟩
  rcases hp with rfl | rfl
  · exact ⟨hne, hword, hport.1, hport.2, .inl rfl⟩
  · exact ⟨hne, hword, hport.1, hport.2, .inr rfl⟩

theorem placed_of_remotes {net : NetEnv} (hnet : net.Sound) {contents : Except GError String}
    {p : Pasted} (h : p ∈ pastedRemotes net (parsedRemotes net contents)) : p.Placed := by
  obtain ⟨entry, hentry, hp⟩ := List.mem_flatMap.mp h
  obtain ⟨a, ha, rfl⟩ := List.mem_map.mp hp
  obtain ⟨⟨hhost, hhostWord⟩, hport, hportWord⟩ := parsedRemotes_word hentry
  have haddr : a.text ≠ [] ∧ ∀ c ∈ a.text, nftLexis.blank c = false := by
    unfold entryAddresses at ha
    split at ha
    · rw [List.mem_singleton] at ha
      subst ha
      exact ⟨hhost, hhostWord⟩
    · split at ha
      · cases ha
      · next addresses hlookup =>
          have hword := plainWord_of_literal (hnet.answers _ _ hlookup a ha).1
          exact ⟨hword.ne_nil, fun c hc => (hword.solid c hc).1⟩
  exact ⟨haddr.1, haddr.2, hport, hportWord, nftProto_known entry.proto⟩

/-! ## The whole text -/

theorem statements_eq_iff {pasted : List Pasted} (hplaced : ∀ p ∈ pasted, p.Placed)
    {rules : List AcceptRule} (hlength : pasted.length = rules.length) (allowLan : Bool) :
    nftLexis.statements (rulesetHead ++ (pasted.flatMap Pasted.text ++
        ((if allowLan then lanRules else []) ++ rulesetTail))) = tableStatements rules allowLan ↔
      pasted = rules.map AcceptRule.pasted := by
  rw [statements_head, Pasted.statements_texts, statements_lan, statements_tail, tableStatements,
    List.append_assoc, List.append_assoc, List.append_cancel_left_eq,
    List.append_left_inj]
  constructor
  · intro h
    have hgroups := Text.eq_map_singleton_of_flatten (fun group hgroup => ?_)
      (by rw [List.length_map, List.length_map, hlength]) h
    · rw [List.map_map] at hgroups
      refine Text.eq_map_of_map_eq (fun p hp r hread => ?_) hgroups
      exact ((hplaced p hp).reads_iff r).mp hread
    · obtain ⟨p, hp, rfl⟩ := List.mem_map.mp hgroup
      rw [p.statements_text]
      exact Lexis.statements_ne_nil (c := 'd')
        (by simp [Pasted.line, Pasted.words, List.intercalate_cons_cons]) (by decide) (by decide)
  · rintro rfl
    rw [List.map_map, ← List.flatMap_def, List.map_eq_flatMap]
    apply List.flatMap_congr
    intro r hr
    exact ((hplaced r.pasted (List.mem_map_of_mem hr)).reads_iff r).mpr rfl

theorem pastedResolvers_keys (net : NetEnv) :
    (pastedResolvers net).map (fun p => (p.addr, p.proto, Decimal.value p.port)) =
      (nameservers net).flatMap
        (fun addr => [(addr, protocolUdp.toList, 53), (addr, protocolTcp.toList, 53)]) := by
  have hvalue : Decimal.value "53".toList = 53 := by decide
  simp only [pastedResolvers, List.map_flatMap, List.map_cons, List.map_nil, hvalue]

theorem pastedRemotes_keys (net : NetEnv) (entries : List RemoteEntry) :
    (pastedRemotes net entries).map (fun p => (p.addr, p.proto, p.port)) =
      entries.flatMap fun entry =>
        (entryAddresses net entry).map fun a => (a.text, nftProto entry.proto, entry.port) := by
  simp only [pastedRemotes, List.map_flatMap, List.map_map]
  rfl

theorem admits_iff_pasted {net : NetEnv} (hnet : net.Sound) {contents : Except GError String}
    {allowLan : Bool} {ruleset : List Char}
    (hbuild : buildRuleset net contents allowLan = .ok ruleset) :
    Admits net contents allowLan ruleset ↔
      (∀ p ∈ pastedResolvers net, p ∈ Set.range AcceptRule.pasted) ∧
        ∀ p ∈ pastedRemotes net (parsedRemotes net contents), p ∈ Set.range AcceptRule.pasted := by
  have hplaced : ∀ p ∈ pastedResolvers net ++ pastedRemotes net (parsedRemotes net contents),
      p.Placed := by
    intro p hp
    rcases List.mem_append.mp hp with hp | hp
    · exact placed_of_resolvers hp
    · exact placed_of_remotes hnet hp
  have hkeys := pastedResolvers_keys net
  have hremoteKeys := pastedRemotes_keys net (parsedRemotes net contents)
  unfold Admits
  rw [buildRuleset_eq hbuild]
  constructor
  · rintro ⟨resolvers, remotes, hread, hresolvers, hremotes⟩
    have hlenRes : (pastedResolvers net).length = resolvers.length := by
      have h := congrArg List.length (hkeys.trans hresolvers.symm)
      simpa using h
    have hlenRem : (pastedRemotes net (parsedRemotes net contents)).length = remotes.length := by
      have h := congrArg List.length (hremoteKeys.trans hremotes.symm)
      simpa only [List.length_map] using h
    have hlength : (pastedResolvers net ++ pastedRemotes net (parsedRemotes net contents)).length =
        (resolvers ++ remotes).length := by
      simp only [List.length_append, hlenRes, hlenRem]
    have hpasted := (statements_eq_iff hplaced hlength allowLan).mp hread
    have hrange : ∀ p ∈ pastedResolvers net ++ pastedRemotes net (parsedRemotes net contents),
        p ∈ Set.range AcceptRule.pasted := by
      intro p hp
      rw [hpasted] at hp
      obtain ⟨r, _, hr⟩ := List.mem_map.mp hp
      exact ⟨r, hr⟩
    exact ⟨fun p hp => hrange p (List.mem_append_left _ hp),
      fun p hp => hrange p (List.mem_append_right _ hp)⟩
  · rintro ⟨hres, hrem⟩
    obtain ⟨resolvers, hresolvers⟩ := (Set.range_list_map AcceptRule.pasted).ge hres
    obtain ⟨remotes, hremotes⟩ := (Set.range_list_map AcceptRule.pasted).ge hrem
    refine ⟨resolvers, remotes, ?_, ?_, ?_⟩
    · rw [← hresolvers, ← hremotes] at hplaced ⊢
      rw [← List.map_append] at hplaced ⊢
      exact (statements_eq_iff hplaced (List.length_map _) allowLan).mpr rfl
    · rw [← hkeys, ← hresolvers, List.map_map]
      exact List.map_congr_left fun r _ => by simp [AcceptRule.pasted]
    · rw [← hremoteKeys, ← hremotes, List.map_map]
      rfl

theorem mem_range_pasted {v6 : Bool} {addr proto port : List Char}
    (hproto : proto = protocolUdp.toList ∨ proto = protocolTcp.toList) :
    ⟨v6, addr, proto, port⟩ ∈ Set.range AcceptRule.pasted ↔
      (PlainLiteral addr ∧ v6 = addr.contains ':') ∧
        ∃ n, 1 ≤ n ∧ n ≤ 65535 ∧ port = Nat.toDigits 10 n := by
  constructor
  · rintro ⟨r, hr⟩
    cases hr
    exact ⟨⟨r.plain, rfl⟩, r.port, r.port_pos, r.port_le, rfl⟩
  · rintro ⟨⟨hplain, rfl⟩, n, hpos, hle, rfl⟩
    exact ⟨⟨addr, proto, n, hplain, hproto, hpos, hle⟩, rfl⟩

theorem pasted_of_literal {net : NetEnv} {entries : List RemoteEntry} {entry : RemoteEntry}
    (hentry : entry ∈ entries) (hip : gHostnameIsIpAddress entry.host = true) :
    ⟨entry.host.contains ':' && net.knownV6 entry.host, entry.host, nftProto entry.proto,
      entry.port⟩ ∈ pastedRemotes net entries := by
  refine List.mem_flatMap.mpr ⟨entry, hentry, ?_⟩
  rw [entryAddresses, if_pos hip]
  exact List.mem_singleton_self _

theorem entryAddresses_ne_nil {net : NetEnv} {entries : List RemoteEntry} {rules : List Char}
    (h : remoteRules net entries = .ok rules) :
    ∀ entry ∈ entries, entryAddresses net entry ≠ [] := by
  induction entries generalizing rules with
  | nil => simp
  | cons first entries ih =>
      unfold remoteRules at h
      split at h
      · cases h
      · next rule hfirst =>
          split at h
          · cases h
          · next more hmore =>
              intro entry hentry
              rcases List.mem_cons.mp hentry with rfl | hentry
              · unfold appendRemoteRules at hfirst
                unfold entryAddresses
                by_cases hip : gHostnameIsIpAddress entry.host = true
                · rw [if_pos hip]
                  exact List.cons_ne_nil _ _
                · rw [if_neg hip]
                  dsimp only at hfirst
                  rw [if_neg hip] at hfirst
                  cases hlookup : net.lookupByName entry.host with
                  | error e =>
                      rw [hlookup] at hfirst
                      cases hfirst
                  | ok addresses => exact addresses.property
              · exact ih hmore entry hentry

theorem entryAddresses_of_build {net : NetEnv} {contents : Except GError String}
    {allowLan : Bool} {ruleset : List Char}
    (h : buildRuleset net contents allowLan = .ok ruleset) :
    ∀ entry ∈ parsedRemotes net contents, entryAddresses net entry ≠ [] := by
  obtain ⟨rules, hrules, -⟩ := remoteRules_of_build h
  exact entryAddresses_ne_nil hrules

theorem resolvers_in_range (net : NetEnv) :
    (∀ p ∈ pastedResolvers net, p ∈ Set.range AcceptRule.pasted) ↔
      ∀ addr ∈ nameservers net, PlainLiteral addr := by
  have hport : "53".toList = Nat.toDigits 10 53 := by decide
  constructor
  · intro h addr haddr
    have hp := h ⟨addr.contains ':', addr, protocolUdp.toList, "53".toList⟩
      (List.mem_flatMap.mpr ⟨addr, haddr, List.mem_cons_self⟩)
    exact ((mem_range_pasted (.inl rfl)).mp hp).1.1
  · intro h p hp
    obtain ⟨addr, haddr, hp⟩ := List.mem_flatMap.mp hp
    simp only [List.mem_cons, List.not_mem_nil, or_false] at hp
    rcases hp with rfl | rfl
    · exact (mem_range_pasted (.inl rfl)).mpr
        ⟨⟨h addr haddr, rfl⟩, 53, by decide, by decide, hport⟩
    · exact (mem_range_pasted (.inr rfl)).mpr
        ⟨⟨h addr haddr, rfl⟩, 53, by decide, by decide, hport⟩

/-- The ruleset that is built admits what is meant exactly when nothing that is
pasted can be read as syntax. -/
theorem ruleset_admits_iff {net : NetEnv} (hnet : net.Sound) {contents : Except GError String}
    {allowLan : Bool} {ruleset : List Char}
    (hbuild : buildRuleset net contents allowLan = .ok ruleset) :
    Admits net contents allowLan ruleset ↔ PlainInputs net contents := by
  rw [admits_iff_pasted hnet hbuild, resolvers_in_range]
  constructor
  · rintro ⟨hres, hrem⟩
    refine ⟨fun entry hentry => ?_, fun entry hentry hip => ?_, hres⟩
    · obtain ⟨a, ha⟩ := List.exists_mem_of_ne_nil _ (entryAddresses_of_build hbuild entry hentry)
      have hp := hrem _ (List.mem_flatMap.mpr ⟨entry, hentry, List.mem_map_of_mem ha⟩)
      exact ((mem_range_pasted (nftProto_known _)).mp hp).2
    · have hp := hrem _ (pasted_of_literal hentry hip)
      exact ((mem_range_pasted (nftProto_known _)).mp hp).1.1
  · intro h
    refine ⟨h.nameservers, fun p hp => ?_⟩
    obtain ⟨entry, hentry, hp⟩ := List.mem_flatMap.mp hp
    obtain ⟨a, ha, rfl⟩ := List.mem_map.mp hp
    refine (mem_range_pasted (nftProto_known _)).mpr ⟨?_, h.ports entry hentry⟩
    unfold entryAddresses at ha
    split at ha
    · next hip =>
        rw [List.mem_singleton] at ha
        subst ha
        have hplain := h.hosts entry hentry hip
        refine ⟨hplain, ?_⟩
        cases hcolon : entry.host.contains ':' with
        | false => rfl
        | true => exact hnet.known _ hplain (List.contains_iff_mem.mp hcolon)
    · split at ha
      · cases ha
      · next addresses hlookup => exact hnet.answers _ _ hlookup a ha

def sampleNet : NetEnv where
  resolvConf := some "nameserver 192.0.2.53\n"
  lookupByName _ := .ok ⟨[⟨false, "192.0.2.7".toList⟩], List.cons_ne_nil _ _⟩
  knownV6 addr := addr ≠ [':']
  stray _ := none

theorem sampleNet_sound : sampleNet.Sound where
  answers host addresses h a ha := by
    cases h
    rw [List.mem_singleton.mp ha]
    exact ⟨⟨by decide +kernel, by decide, by decide⟩, by decide⟩
  known _ h _ := decide_eq_true h.ne_colon

theorem buildRuleset_sample {contents : Except GError String} {entry : RemoteEntry}
    (hparse : parseRemotes sampleNet.stray contents = .remotes [entry]) :
    ∃ ruleset, buildRuleset sampleNet contents false = .ok ruleset := by
  unfold buildRuleset
  rw [hparse, Parsed.result]
  unfold remoteRules remoteRules appendRemoteRules
  by_cases hip : gHostnameIsIpAddress entry.host = true
  · simp only [hip, if_true]
    exact ⟨_, rfl⟩
  · simp only [hip, sampleNet]
    exact ⟨_, rfl⟩

theorem ruleset_admits_sample :
    ∃ ruleset, buildRuleset sampleNet (.ok "remote ch.vpn.airdns.org 443 udp\n") false =
        .ok ruleset ∧
      Admits sampleNet (.ok "remote ch.vpn.airdns.org 443 udp\n") false ruleset := by
  have hparse : parseRemotes sampleNet.stray (.ok "remote ch.vpn.airdns.org 443 udp\n") =
      .remotes [⟨"ch.vpn.airdns.org".toList, "443".toList, "udp".toList⟩] := by decide +kernel
  have hone : parsedRemotes sampleNet (.ok "remote ch.vpn.airdns.org 443 udp\n") =
      [⟨"ch.vpn.airdns.org".toList, "443".toList, "udp".toList⟩] := by
    rw [parsedRemotes, hparse]
    rfl
  obtain ⟨ruleset, hbuild⟩ := buildRuleset_sample hparse
  refine ⟨ruleset, hbuild, (ruleset_admits_iff sampleNet_sound hbuild).mpr ⟨?_, ?_, ?_⟩⟩
  · rw [hone]
    intro entry hentry
    rw [List.mem_singleton.mp hentry]
    exact ⟨443, by decide, by decide, by decide⟩
  · rw [hone]
    decide +kernel
  · decide +kernel

def sampleRange : Except GError String := .ok "remote 192.0.2.7 1-65535\n"

theorem port_range_admitted :
    ∃ ruleset, buildRuleset sampleNet sampleRange false = .ok ruleset ∧
      ¬ Admits sampleNet sampleRange false ruleset := by
  have hparse : parseRemotes sampleNet.stray sampleRange =
      .remotes [⟨"192.0.2.7".toList, "1-65535".toList, "udp".toList⟩] := by decide +kernel
  have hone : parsedRemotes sampleNet sampleRange =
      [⟨"192.0.2.7".toList, "1-65535".toList, "udp".toList⟩] := by
    rw [parsedRemotes, hparse]
    rfl
  obtain ⟨ruleset, hbuild⟩ := buildRuleset_sample hparse
  refine ⟨ruleset, hbuild, fun h => ?_⟩
  obtain ⟨entry, hentry, hip, hport⟩ : ∃ entry ∈ parsedRemotes sampleNet sampleRange,
      gHostnameIsIpAddress entry.host = true ∧ entry.port = "1-65535".toList := by
    rw [hone]
    exact ⟨_, List.mem_singleton_self _, by decide +kernel, rfl⟩
  have hremotes := ((admits_iff_pasted sampleNet_sound hbuild).mp h).2
  have hpasted := hremotes _ (pasted_of_literal hentry hip)
  obtain ⟨-, n, -, -, hdigits⟩ := (mem_range_pasted (nftProto_known _)).mp hpasted
  have hall := (Decimal.plain_toDigits n).digits
  rw [← hdigits, hport] at hall
  exact absurd (hall '-' (by decide)) (by decide)

end AirVpn
